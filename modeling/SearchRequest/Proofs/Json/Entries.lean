import SearchRequest.Failure
import SearchRequest.Proofs.Json.Table

/-!
What reads as the entries of an object, and what is read. Keys are kept as they are given, so a
number and the text of its digits have an entry each.
-/

namespace SearchRequest

namespace Json

/-- Anything of two elements, the first of which can be a key. -/
def IsPair (item : Json) : Prop :=
  ∃ key value, item.elements? = some [key, value] ∧ key.isScalar = true

def Spells (value : Json) : Prop :=
  (∃ entries, value = .obj entries) ∨
    ∃ items, value.elements? = some items ∧ ∀ item ∈ items, item.IsPair

theorem succeeds_readPairs (done : Table) (items : List Json) :
    Succeeds (readPairs done items) ↔ ∀ item ∈ items, item.IsPair := by
  induction items generalizing done with
  | nil => exact iff_of_true (succeeds_ok _) nofun
  | cons item rest ih =>
    rw [List.forall_mem_cons, readPairs]
    split
    · rename_i alone
      refine iff_of_false (not_succeeds_error _) ?_
      rintro ⟨⟨key, value, two, _⟩, _⟩
      rw [alone] at two
      cases two
    · rename_i key value two
      split
      · rename_i scalar
        rw [ih]
        exact ⟨fun pairs => ⟨⟨key, value, two, scalar⟩, pairs⟩, And.right⟩
      · rename_i container
        refine iff_of_false (not_succeeds_error _) ?_
        rintro ⟨⟨otherKey, otherValue, same, scalar⟩, _⟩
        rw [two] at same
        cases same
        exact container scalar
    · rename_i elements other listed
      refine iff_of_false (not_succeeds_error _) ?_
      rintro ⟨⟨key, value, two, _⟩, _⟩
      rw [listed] at two
      exact other key value (Option.some.inj two)

theorem succeeds_pairs (value : Json) : Succeeds value.pairs ↔ value.Spells := by
  unfold pairs
  split
  · exact iff_of_true (succeeds_ok _) (.inl ⟨_, rfl⟩)
  · rename_i other
    have notObject : ¬ ∃ entries, value = .obj entries := fun ⟨entries, same⟩ => other entries same
    rw [Spells, or_iff_right notObject]
    split
    · rename_i alone
      refine iff_of_false (not_succeeds_error _) ?_
      rintro ⟨items, listed, _⟩
      rw [alone] at listed
      cases listed
    · rename_i items listed
      simp only [succeeds_readPairs, listed, Option.some.injEq, exists_eq_left']

theorem succeeds_asTable (value : Json) : Succeeds value.asTable ↔ value.Spells := by
  rw [← succeeds_pairs]
  simp only [Succeeds, asTable, mapError_eq_ok]

/-- The entries that a value spells out: its own, or those of a list of pairs. -/
inductive Reads : Json → Table → Prop
  | object (entries : Object) :
      Reads (.obj entries) (entries.map fun entry => (.str entry.1, entry.2))
  | pairs {items : List Json} {pairs table : Table} (paired : List.Forall₂ Pairs items pairs)
      (collects : Collects table pairs) : Reads (.arr items) table

/-- The value counts as an object with the entries. Anything empty counts as the empty object. -/
def Counts (value : Json) (table : Table) : Prop :=
  if value.truthy then value.Reads table else table = []

theorem isPair_of_pairs {items : List Json} {pairs : Table}
    (paired : List.Forall₂ Pairs items pairs) : ∀ item ∈ items, item.IsPair := by
  induction paired with
  | nil => nofun
  | @cons item pair rest others first _ ih =>
    exact List.forall_mem_cons.mpr ⟨⟨pair.1, pair.2, first.1, first.2⟩, ih⟩

theorem spells_of_reads {value : Json} {table : Table} (reads : value.Reads table) :
    value.Spells := by
  cases reads with
  | object => exact .inl ⟨_, rfl⟩
  | pairs paired collects => exact .inr ⟨_, rfl, isPair_of_pairs paired⟩

theorem eq_empty_of_spells {text : String} (spells : (Json.str text).Spells) : text = "" := by
  rcases spells with ⟨entries, same⟩ | ⟨items, listed, pairs⟩
  · cases same
  · cases listed
    cases chars : text.toList with
    | nil => exact String.toList_eq_nil_iff.mp chars
    | cons c rest =>
      rw [chars, List.map_cons] at pairs
      obtain ⟨key, value, two, _⟩ := pairs _ List.mem_cons_self
      simp [elements?] at two

theorem reads_of_pairs {value : Json} {table : Table} (full : value.truthy = true)
    (read : value.pairs = .ok table) : value.Reads table := by
  cases value with
  | obj own =>
    cases read
    exact .object own
  | arr items =>
    have nothing : Collects [] [] := ⟨rfl, fun _ => rfl⟩
    obtain ⟨pairs, paired, collects⟩ := collects_of_readPairs nothing read
    exact .pairs paired collects
  | str text =>
    cases eq_empty_of_spells ((succeeds_pairs _).mp ⟨table, read⟩)
    cases full
  | _ => cases read

theorem counts_of_pairs {value : Json} {table : Table} (read : value.pairs = .ok table) :
    value.Counts table := by
  unfold Counts
  split
  · rename_i full
    exact reads_of_pairs full read
  · rename_i empty
    cases value with
    | arr items =>
      have none : items = [] := by simpa [truthy] using empty
      subst none
      cases read
      rfl
    | str text =>
      cases eq_empty_of_spells ((succeeds_pairs _).mp ⟨table, read⟩)
      cases read
      rfl
    | obj own =>
      have none : own = [] := by simpa [truthy] using empty
      subst none
      cases read
      rfl
    | _ => cases read

theorem counts_orEmpty {value : Json} {table : Table} (counts : value.orEmpty.Counts table) :
    value.Counts table := by
  unfold orEmpty at counts
  split at counts
  · exact counts
  · rename_i empty
    rw [Counts, if_neg empty]
    exact counts

theorem counts_of_asTable {value : Json} {table : Table} (read : value.asTable = .ok table) :
    value.Counts table := counts_of_pairs (mapError_eq_ok.mp read)

theorem ofTable_texts (entries : Object) :
    ofTable (entries.map fun entry => (.str entry.1, entry.2)) = entries := by
  rw [ofTable, List.map_map]
  exact List.map_id _

theorem counts_of_asEntries {value : Json} {entries : Object}
    (read : value.asEntries = .ok entries) :
    ∃ table, value.Counts table ∧ entries = ofTable table := by
  rw [asEntries, mapError_eq_ok] at read
  unfold Json.entries at read
  split at read
  · cases read
    exact ⟨_, counts_of_pairs rfl, (ofTable_texts entries).symm⟩
  · cases spelled : value.pairs with
    | error fault =>
      rw [spelled] at read
      cases read
    | ok table =>
      rw [spelled] at read
      cases read
      exact ⟨table, counts_of_pairs spelled, rfl⟩

theorem spells_orEmpty (value : Json) : value.orEmpty.Spells ↔ ∃ table, value.Counts table := by
  constructor
  · intro spells
    obtain ⟨table, read⟩ := (succeeds_pairs _).mpr spells
    exact ⟨table, counts_orEmpty (counts_of_pairs read)⟩
  · rintro ⟨table, counts⟩
    unfold Counts at counts
    unfold orEmpty
    split
    · rename_i full
      rw [if_pos full] at counts
      exact spells_of_reads counts
    · exact .inl ⟨[], rfl⟩

end Json

end SearchRequest
