import Mathlib.Data.List.DropRight
import SearchRequest.Text.Blank

/-!
Laws of trimmed texts: what is left of a text that is not blank begins and ends with characters
that are not blank.
-/

namespace SearchRequest.Text

/-- A text that begins and ends with a character that is not blank; so it is not blank itself. -/
structure IsBare (text : String) : Prop where
  first : ∃ c, text.toList.head? = some c ∧ isBlankChar c = false
  last : ∃ c, text.toList.getLast? = some c ∧ isBlankChar c = false

variable {blank : Char → Bool} {chars : List Char}

theorem trimmed_eq_rdropWhile (blank : Char → Bool) (chars : List Char) :
    trimmed blank chars = (chars.dropWhile blank).rdropWhile blank := rfl

theorem head_dropWhile {c : Char} {rest : List Char} (left : chars.dropWhile blank = c :: rest) :
    blank c = false := by
  have stopped := List.head?_dropWhile_not blank chars
  rw [left] at stopped
  exact stopped

theorem exists_trimmed (filled : ∃ c ∈ chars, blank c = false) :
    ∃ c rest, trimmed blank chars = c :: rest ∧ blank c = false := by
  cases left : chars.dropWhile blank with
  | nil =>
    obtain ⟨c, listed, plain⟩ := filled
    have gone := List.dropWhile_eq_nil_iff.mp left c listed
    rw [plain] at gone
    cases gone
  | cons c rest =>
    have plain := head_dropWhile left
    have kept : (c :: rest).rdropWhile blank ≠ [] := fun gone => by
      have all := List.rdropWhile_eq_nil_iff.mp gone c List.mem_cons_self
      rw [plain] at all
      cases all
    rw [trimmed_eq_rdropWhile, left]
    obtain ⟨head, tail, same⟩ := List.exists_cons_of_ne_nil kept
    obtain ⟨ending, whole⟩ := List.rdropWhile_prefix blank (c :: rest)
    rw [same] at whole
    obtain ⟨rfl, _⟩ := List.cons.inj whole
    exact ⟨head, tail, same, plain⟩

theorem getLast_trimmed (filled : trimmed blank chars ≠ []) :
    blank ((trimmed blank chars).getLast filled) = false :=
  Bool.eq_false_iff.mpr (List.rdropWhile_last_not blank (chars.dropWhile blank) filled)

theorem isBlank_eq_false {text : String} :
    isBlank text = false ↔ ∃ c ∈ text.toList, isBlankChar c = false := by
  simp only [isBlank, List.all_eq_false, Bool.not_eq_true]

theorem isBare_trim {text : String} (filled : isBlank text = false) : IsBare (trim text) := by
  obtain ⟨c, rest, same, plain⟩ := exists_trimmed (isBlank_eq_false.mp filled)
  have kept : trimmed isBlankChar text.toList ≠ [] := same ▸ List.cons_ne_nil c rest
  have chars : (trim text).toList = trimmed isBlankChar text.toList := String.toList_ofList
  refine ⟨⟨c, ?_, plain⟩, _, ?_, getLast_trimmed kept⟩
  · rw [chars, same, List.head?_cons]
  · rw [chars, List.getLast?_eq_some_getLast kept]

theorem dropWhile_of_plain (plain : ∀ c ∈ chars, blank c = false) :
    chars.dropWhile blank = chars := by
  cases chars with
  | nil => rfl
  | cons c rest => rw [List.dropWhile_cons_of_neg (by simp [plain c List.mem_cons_self])]

theorem trimmed_of_plain (plain : ∀ c ∈ chars, blank c = false) : trimmed blank chars = chars := by
  rw [trimmed, dropWhile_of_plain plain,
    dropWhile_of_plain fun c listed => plain c (List.mem_reverse.mp listed), List.reverse_reverse]

theorem mem_of_mem_trimmed {c : Char} (listed : c ∈ trimmed blank chars) : c ∈ chars := by
  have front := List.dropWhile_subset _ (List.mem_reverse.mp listed)
  exact List.dropWhile_subset _ (List.mem_reverse.mp front)

end SearchRequest.Text
