import Mathlib.Data.List.TakeWhile
import SearchRequest.Proofs.Connection.Routes

/-!
The paths of searches with a document type. A path has the index and the type as they stand, so
slashes among their characters are slashes of the path: it leads back to the two exactly when they
have none. Where it ends as an address, question marks and number signs count too.
-/

namespace SearchRequest

theorem Edit.isBlank_of_index {name : String}
    (accepted : Edit.index.change [("index", .str name)] = .ok (.index name)) :
    Text.isBlank name = false := by
  change (do let named ← nameIn "index" (.str name); .ok (Change.index named)) = _ at accepted
  obtain ⟨named, checked, same⟩ := bind_eq_ok.mp accepted
  cases same
  exact (nameIn_eq_ok.mp checked).2

theorem Edit.isBlank_of_docType {name : String}
    (accepted : Edit.docType.change [("type_", .str name)] = .ok (.docType name)) :
    Text.isBlank name = false := by
  change (do let named ← nameIn "type" (.str name); .ok (Change.docType named)) = _ at accepted
  obtain ⟨named, checked, same⟩ := bind_eq_ok.mp accepted
  cases same
  exact (nameIn_eq_ok.mp checked).2

namespace Connection

/-- What stands behind each slash of a path that begins with one. -/
def segments (path : List Char) : List (List Char) := (Text.pieces '/' path).tail

/-- The characters with which an address goes on behind its path. -/
def endsPath (c : Char) : Bool := c == '?' || c == '#'

def pathOf (address : List Char) : List Char := address.takeWhile (!endsPath ·)

def target (index docType : String) : List (List Char) :=
  [index.toList, docType.toList, "_search".toList]

theorem toList_searchPath (index docType : String) :
    (searchPath (.str index) (.str docType)).toList =
      '/' :: (index.toList ++ '/' :: (docType.toList ++ '/' :: "_search".toList)) := by
  have ending : "/_search".toList = '/' :: "_search".toList := rfl
  simp only [searchPath, Json.displayed, String.toList_append, ending, List.append_assoc]
  rfl

theorem segments_searchPath (index docType : String) :
    segments (searchPath (.str index) (.str docType)).toList =
      Text.pieces '/' index.toList ++ (Text.pieces '/' docType.toList ++ ["_search".toList]) := by
  have ending : Text.pieces '/' "_search".toList = ["_search".toList] :=
    Text.pieces_of_plain (by decide)
  rw [segments, toList_searchPath, Text.pieces, if_pos rfl, List.tail_cons,
    Text.pieces_append_separator, Text.pieces_append_separator, ending]

theorem pieces_pair {a b first second : List Char} {rest : List (List Char)}
    (same : Text.pieces '/' a ++ (Text.pieces '/' b ++ rest) = first :: second :: rest) :
    Text.pieces '/' a = [first] ∧ Text.pieces '/' b = [second] := by
  obtain ⟨p, ps, pieces⟩ := Text.exists_pieces '/' a
  obtain ⟨q, qs, others⟩ := Text.exists_pieces '/' b
  rw [pieces, others] at same ⊢
  have lengths := congrArg List.length same
  simp only [List.length_append, List.length_cons] at lengths
  have none : ps = [] := List.eq_nil_of_length_eq_zero (by omega)
  have more : qs = [] := List.eq_nil_of_length_eq_zero (by omega)
  subst none more
  simpa using same

theorem segments_eq_target {index docType : String} :
    segments (searchPath (.str index) (.str docType)).toList = target index docType ↔
      '/' ∉ index.toList ∧ '/' ∉ docType.toList := by
  rw [segments_searchPath, target]
  constructor
  · intro same
    obtain ⟨first, second⟩ := pieces_pair same
    exact ⟨(Text.pieces_eq_singleton.mp first).2, (Text.pieces_eq_singleton.mp second).2⟩
  · rintro ⟨first, second⟩
    rw [Text.pieces_of_plain first, Text.pieces_of_plain second]
    rfl

theorem searchPath_injective {index docType other type : String}
    (same : searchPath (.str other) (.str type) = searchPath (.str index) (.str docType))
    (first : '/' ∉ index.toList) (second : '/' ∉ docType.toList) :
    other = index ∧ type = docType := by
  have segmented := congrArg (fun path => segments path.toList) same
  simp only [segments_eq_target.mpr ⟨first, second⟩, segments_searchPath] at segmented
  obtain ⟨named, typed⟩ := pieces_pair segmented
  exact ⟨String.toList_inj.mp (Text.pieces_eq_singleton.mp named).1,
    String.toList_inj.mp (Text.pieces_eq_singleton.mp typed).1⟩

theorem pathOf_eq_self {address : List Char} :
    pathOf address = address ↔ ∀ c ∈ address, endsPath c = false := by
  simp only [pathOf, List.takeWhile_eq_self_iff, Bool.not_eq_true']

def IsPlain (name : String) : Prop := ∀ c ∈ name.toList, c ≠ '/' ∧ endsPath c = false

theorem isPlain_iff {name : String} :
    IsPlain name ↔ '/' ∉ name.toList ∧ ∀ c ∈ name.toList, endsPath c = false := by
  constructor
  · intro plain
    exact ⟨fun listed => (plain _ listed).1 rfl, fun c listed => (plain c listed).2⟩
  · rintro ⟨whole, kept⟩ c listed
    exact ⟨fun slash => whole (slash ▸ listed), kept c listed⟩

theorem endsPath_searchPath {index docType : String} :
    (∀ c ∈ (searchPath (.str index) (.str docType)).toList, endsPath c = false) ↔
      (∀ c ∈ index.toList, endsPath c = false) ∧ ∀ c ∈ docType.toList, endsPath c = false := by
  have slash : endsPath '/' = false := rfl
  have ending : ∀ c ∈ "_search".toList, endsPath c = false := by
    have all : "_search".toList.all (!endsPath ·) = true := rfl
    simpa only [List.all_eq_true, Bool.not_eq_true'] using all
  rw [toList_searchPath]
  simp only [List.forall_mem_cons, List.forall_mem_append, slash, true_and]
  exact ⟨fun ⟨first, second, _⟩ => ⟨first, second⟩, fun ⟨first, second⟩ => ⟨first, second, ending⟩⟩

theorem segments_pathOf_eq_target {index docType : String} :
    segments (pathOf (searchPath (.str index) (.str docType)).toList) = target index docType ↔
      IsPlain index ∧ IsPlain docType := by
  rw [isPlain_iff, isPlain_iff]
  constructor
  · intro same
    -- The segments of what is left join up to the whole address, so nothing was cut off.
    have whole : pathOf (searchPath (.str index) (.str docType)).toList =
        (searchPath (.str index) (.str docType)).toList := by
      obtain ⟨rest, begins⟩ : ∃ rest, pathOf (searchPath (.str index) (.str docType)).toList =
          '/' :: rest := by
        rw [toList_searchPath]
        exact ⟨_, rfl⟩
      rw [begins, segments, Text.pieces, if_pos rfl, List.tail_cons] at same
      have joined := Text.intercalate_pieces '/' rest
      rw [same, target, List.intercalate_cons_cons, List.intercalate_cons_cons,
        List.intercalate_singleton] at joined
      rw [begins, ← joined, toList_searchPath]
      simp only [List.append_assoc, List.singleton_append]
    obtain ⟨first, second⟩ := endsPath_searchPath.mp (pathOf_eq_self.mp whole)
    rw [whole, segments_eq_target] at same
    exact ⟨⟨same.1, first⟩, same.2, second⟩
  · rintro ⟨⟨first, opened⟩, second, closed⟩
    rw [pathOf_eq_self.mpr (endsPath_searchPath.mpr ⟨opened, closed⟩)]
    exact segments_eq_target.mpr ⟨first, second⟩

theorem resolve_untenanted {c : Connection} (untenanted : c.settings.indexPrefix.truthy = false)
    (index : Json) : c.resolve index = .ok index := by
  simp only [resolve, untenanted, Bool.not_false, Bool.or_true, if_true]

end Connection

/-- A search over a connection without a tenant, for an index and a document type that a search
under construction takes as its own. -/
structure TypedSearch where
  connection : Connection
  index : String
  docType : String
  body : Object
  untenanted : connection.settings.indexPrefix.truthy = false
  indexed : Edit.index.change [("index", .str index)] = .ok (.index index)
  typed : Edit.docType.change [("type_", .str docType)] = .ok (.docType docType)

namespace TypedSearch

open Connection

def requests (t : TypedSearch) : List Request :=
  ((Link.managed t.connection).search (some t.index) (some t.docType) t.body).report.requests

def path (t : TypedSearch) : String := searchPath (.str t.index) (.str t.docType)

theorem requests_eq (t : TypedSearch) :
    t.requests = t.connection.asking (.clientPost t.path t.body) := by
  have named := truthy_of_named (Edit.isBlank_of_index t.indexed)
  have typed := truthy_of_named (Edit.isBlank_of_docType t.typed)
  have route := search_by_path t.body (resolve_untenanted t.untenanted (.str t.index)) named typed
  exact (congrArg (·.report.requests) route).trans (requests_exchanged ..)

/-- What is sent goes by one path. Split at its slashes the path is the index, the type and a
constant exactly when neither name has a slash, and no other such search then has the same path. As
an address it leads there exactly when the names are plain. -/
theorem path_tells_target (t : TypedSearch) :
    t.requests = t.connection.asking (.clientPost t.path t.body) ∧
      (segments t.path.toList = target t.index t.docType ↔
        '/' ∉ t.index.toList ∧ '/' ∉ t.docType.toList) ∧
      ('/' ∉ t.index.toList → '/' ∉ t.docType.toList → ∀ other : TypedSearch,
        other.path = t.path → other.index = t.index ∧ other.docType = t.docType) ∧
      (segments (pathOf t.path.toList) = target t.index t.docType ↔
        IsPlain t.index ∧ IsPlain t.docType) :=
  ⟨t.requests_eq, segments_eq_target,
    fun first second _ same => searchPath_injective same first second, segments_pathOf_eq_target⟩

def plainly (index docType : String)
    (indexed : Edit.index.change [("index", .str index)] = .ok (.index index))
    (typed : Edit.docType.change [("type_", .str docType)] = .ok (.docType docType)) :
    TypedSearch :=
  ⟨Link.tenantConnection "", index, docType, [], rfl, indexed, typed⟩

def orders : TypedSearch := plainly "orders" "doc" rfl rfl

def byYear : TypedSearch := plainly "orders/2024" "doc" rfl rfl

def byYearOfType : TypedSearch := plainly "orders" "2024/doc" rfl rfl

theorem path_tells_target_orders :
    ('/' ∉ orders.index.toList ∧ '/' ∉ orders.docType.toList) ∧
      orders.requests = [.clientPost "/orders/doc/_search" []] ∧
      segments orders.path.toList = target "orders" "doc" ∧ byYear.path ≠ orders.path := by
  have plain : '/' ∉ orders.index.toList ∧ '/' ∉ orders.docType.toList := by decide
  obtain ⟨sent, segmented, apart, _⟩ := path_tells_target orders
  refine ⟨plain, sent, segmented.mpr plain, fun same => ?_⟩
  exact absurd (apart plain.1 plain.2 byYear same).1 (by decide)

/-- A slash may belong to either name, and to none of the segments. -/
theorem not_tells_target_slashed :
    segments byYear.path.toList ≠ target byYear.index byYear.docType ∧
      byYear.index ≠ byYearOfType.index ∧ byYear.path = byYearOfType.path := by
  refine ⟨?_, ?_, ?_⟩
  all_goals decide

end TypedSearch

end SearchRequest
