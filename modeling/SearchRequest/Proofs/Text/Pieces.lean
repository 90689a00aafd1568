import SearchRequest.Text.Blank

/-!
Laws of the pieces of a text: there is always a first one, what is put in front of the text without
a separator is put in front of it, and the pieces with separators between them are the text again.
-/

namespace SearchRequest.Text

theorem exists_pieces (separator : Char) (chars : List Char) :
    ∃ first others, pieces separator chars = first :: others := by
  induction chars with
  | nil => exact ⟨[], [], rfl⟩
  | cons c rest ih =>
    obtain ⟨first, others, same⟩ := ih
    rw [pieces, same]
    by_cases ends : c = separator
    · exact ⟨[], first :: others, if_pos ends⟩
    · exact ⟨c :: first, others, if_neg ends⟩

theorem pieces_append {separator : Char} {front : List Char} (plain : separator ∉ front)
    (chars : List Char) {first : List Char} {others : List (List Char)}
    (same : pieces separator chars = first :: others) :
    pieces separator (front ++ chars) = (front ++ first) :: others := by
  induction front with
  | nil => exact same
  | cons c rest ih =>
    have other : ¬ c = separator := fun ends => plain (ends ▸ List.mem_cons_self)
    have next := ih fun listed => plain (List.mem_cons_of_mem c listed)
    simp only [List.cons_append, pieces, other, if_false, next]

theorem pieces_append_separator (separator : Char) (front chars : List Char) :
    pieces separator (front ++ separator :: chars) =
      pieces separator front ++ pieces separator chars := by
  induction front with
  | nil => exact if_pos rfl
  | cons c rest ih =>
    obtain ⟨first, others, same⟩ := exists_pieces separator rest
    rw [List.cons_append, pieces, pieces, ih, same]
    by_cases ends : c = separator
    · rw [if_pos ends, if_pos ends, List.cons_append, List.cons_append, List.cons_append]
    · rw [if_neg ends, if_neg ends, List.cons_append, List.cons_append]

theorem pieces_of_plain {separator : Char} {chars : List Char} (plain : separator ∉ chars) :
    pieces separator chars = [chars] := by
  have nothing : pieces separator [] = [[]] := rfl
  have whole := pieces_append plain [] nothing
  rwa [List.append_nil] at whole

theorem intercalate_pieces (separator : Char) (chars : List Char) :
    [separator].intercalate (pieces separator chars) = chars := by
  induction chars with
  | nil => rfl
  | cons c rest ih =>
    obtain ⟨first, others, same⟩ := exists_pieces separator rest
    rw [same] at ih
    by_cases ends : c = separator
    · rw [pieces, if_pos ends, same, List.intercalate_cons_cons, ih, ends]
      rfl
    · rw [pieces, if_neg ends, same]
      cases others with
      | nil =>
        rw [List.intercalate_singleton] at ih ⊢
        rw [ih]
      | cons second more =>
        rw [List.intercalate_cons_cons] at ih ⊢
        rw [List.cons_append, List.cons_append, ih]

theorem pieces_intercalate {separator : Char} {parts : List (List Char)} (some : parts ≠ [])
    (plain : ∀ part ∈ parts, separator ∉ part) :
    pieces separator ([separator].intercalate parts) = parts := by
  induction parts with
  | nil => exact absurd rfl some
  | cons first rest ih =>
    obtain ⟨here, others⟩ := List.forall_mem_cons.mp plain
    cases rest with
    | nil => rw [List.intercalate_singleton, pieces_of_plain here]
    | cons second more =>
      rw [List.intercalate_cons_cons, List.append_assoc, List.singleton_append,
        pieces_append_separator, pieces_of_plain here, ih (List.cons_ne_nil _ _) others]
      rfl

theorem flatten_pieces (separator : Char) (chars : List Char) :
    (pieces separator chars).flatten = chars.filter (· != separator) := by
  induction chars with
  | nil => rfl
  | cons c rest ih =>
    obtain ⟨first, others, same⟩ := exists_pieces separator rest
    by_cases ends : c = separator
    · rw [pieces, if_pos ends, List.flatten_cons, List.nil_append, ih,
        List.filter_cons_of_neg (by simpa using ends)]
    · rw [pieces, if_neg ends, same, List.filter_cons_of_pos (by simpa using ends), ← ih, same]
      rfl

theorem pieces_eq_singleton {separator : Char} {chars piece : List Char} :
    pieces separator chars = [piece] ↔ chars = piece ∧ separator ∉ piece := by
  constructor
  · intro alone
    have whole := intercalate_pieces separator chars
    have kept := flatten_pieces separator chars
    rw [alone] at whole kept
    rw [List.intercalate_singleton] at whole
    rw [List.flatten_singleton, whole] at kept
    refine ⟨whole.symm, fun listed => ?_⟩
    rw [whole, kept] at listed
    exact absurd rfl (bne_iff_ne.mp (List.mem_filter.mp listed).2)
  · rintro ⟨rfl, plain⟩
    exact pieces_of_plain plain

end SearchRequest.Text
