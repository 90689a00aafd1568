import Mathlib.Data.List.TakeWhile
import SearchRequest.Proofs.Settings.Library
import SearchRequest.Proofs.Text.Trim
import SearchRequest.Settings.Installed.Conversion

/-!
What the installed library reads as a text, a flag or a number. Flags are told exactly; of numbers
the plain spellings are, and what has no digit in it is none.
-/

namespace SearchRequest

namespace Conversion

theorem text_eq_ok {value : Json} {read : String} : text value = .ok read ↔ value = .str read := by
  cases value with
  | str given => rw [text, Except.ok.injEq, Json.str.injEq]
  | _ => simp only [text, reduceCtorEq]

theorem optionalText_eq_ok {value : Json} {read : Option String} :
    optionalText value = .ok read ↔ value = .ofText? read := by
  cases value <;> cases read <;> simp [optionalText, Json.ofText?]

theorem choice_eq_ok {fault : SettingFault} {names : List String} {value : Json} {name : String} :
    choice fault names value = .ok name ↔ value = .str name ∧ name ∈ names := by
  cases value with
  | str given =>
    rw [choice, List.contains_eq_mem, Json.str.injEq]
    by_cases listed : given ∈ names
    · simp only [listed, decide_true, if_true, Except.ok.injEq]
      exact ⟨fun same => ⟨same, same ▸ listed⟩, And.left⟩
    · simp only [listed, decide_false, Bool.false_eq_true, if_false, reduceCtorEq, false_iff]
      rintro ⟨rfl, other⟩
      exact listed other
  | _ => simp only [choice, reduceCtorEq, false_and]

theorem wholeLimit_eq : wholeLimit = 9223372036854775808 := rfl

theorem wholeOfDecimal_eq_ok {number : Decimal} {value : Int} :
    wholeOfDecimal number = .ok value ↔
      number.whole? = some value ∧ value.natAbs < Nat.pow 2 63 := by
  have small (n : Int) : (-wholeLimit < n ∧ n < wholeLimit) ↔ n.natAbs < Nat.pow 2 63 := by
    rw [wholeLimit_eq, show Nat.pow 2 63 = 9223372036854775808 from rfl]
    omega
  cases number with
  | infinite | nan => simp only [wholeOfDecimal, Decimal.whole?, reduceCtorEq, false_and]
  | finite negative digits exponent =>
    rw [wholeOfDecimal]
    cases Decimal.whole? (.finite negative digits exponent) with
    | none => simp only [reduceCtorEq, false_and]
    | some n =>
      simp only [small, Option.some.injEq]
      split
      case isTrue fits =>
        rw [Except.ok.injEq]
        exact ⟨fun same => ⟨same, same ▸ fits⟩, And.left⟩
      case isFalse large =>
        simp only [reduceCtorEq, false_iff]
        rintro ⟨rfl, fits⟩
        exact large fits

theorem flagOfWhole_eq_ok {value : Int} {flag : Bool} :
    flagOfWhole value = .ok flag ↔ value = if flag then 1 else 0 := by
  rw [flagOfWhole]
  split
  case isTrue one => cases flag <;> simp [one]
  case isFalse other =>
    split
    case isTrue zero => cases flag <;> simp [zero]
    case isFalse more => cases flag <;> simp [other, more]

theorem flagOfText_eq_ok {text : String} {flag : Bool} :
    flagOfText text = .ok flag ↔
      String.ofList (text.toList.map Char.toLower) ∈ if flag then trueTexts else falseTexts := by
  have apart : ∀ known ∈ trueTexts, known ∉ falseTexts := by decide
  simp only [flagOfText, List.contains_iff_mem]
  split
  case isTrue yes => cases flag <;> simp [yes, apart _ yes]
  case isFalse other =>
    split
    case isTrue no => cases flag <;> simp [other, no]
    case isFalse unknown => cases flag <;> simp [other, unknown]

theorem flag_eq_ok {value : Json} {read : Bool} : flag value = .ok read ↔ IsFlag value read := by
  constructor
  · intro taken
    cases value with
    | bool given =>
      cases taken
      exact .bool _
    | str given =>
      have known := flagOfText_eq_ok.mp taken
      cases read
      · exact .no known
      · exact .yes known
    | int given =>
      rw [flag] at taken
      split at taken
      case isTrue =>
        rw [flagOfWhole_eq_ok.mp taken]
        cases read
        · exact .zero
        · exact .one
      case isFalse => cases taken
    | float given =>
      rw [flag] at taken
      split at taken
      case h_1 n found =>
        -- Only a number that is whole is read on, and of whole numbers only one and zero.
        have whole := (wholeOfDecimal_eq_ok.mp found).1
        rw [flagOfWhole_eq_ok.mp taken] at whole
        cases read
        · exact .floatZero whole
        · exact .floatOne whole
      case h_2 => cases taken
    | null | arr | obj => cases taken
  · intro meant
    cases meant with
    | bool given => rfl
    | one | zero => rfl
    | floatOne whole => rw [flag, wholeOfDecimal_eq_ok.mpr ⟨whole, by decide⟩]; rfl
    | floatZero whole => rw [flag, wholeOfDecimal_eq_ok.mpr ⟨whole, by decide⟩]; rfl
    | yes known => exact flagOfText_eq_ok.mpr known
    | no known => exact flagOfText_eq_ok.mpr known


theorem eq_zero_of_head_toDigits {n : Nat} (head : (Nat.toDigits 10 n).head? = some '0') :
    n = 0 := by
  induction n using Nat.strongRecOn with
  | ind n ih =>
    rw [Nat.toDigits_eq_if (by decide)] at head
    split at head
    case isTrue => simpa using head
    case isFalse large =>
      rw [List.head?_append,
        Option.or_of_isSome (List.isSome_head?.mpr Nat.toDigits_ne_nil)] at head
      have none := ih (n / 10) (by omega) head
      omega

theorem plainWhole_toDigits {wholeLength n : Nat} (short : 18 ≤ wholeLength)
    (small : n < Nat.pow 10 18) :
    plainWhole wholeLength (Nat.toDigits 10 n) = .whole n := by
  have digits : ∀ c ∈ Nat.toDigits 10 n, c.isDigit = true := fun c listed =>
    Nat.isDigit_of_mem_toDigits (by decide) (by decide) listed
  have all : (Nat.toDigits 10 n).takeWhile Char.isDigit = Nat.toDigits 10 n :=
    List.takeWhile_eq_self_iff.mpr digits
  have length : (Nat.toDigits 10 n).length ≤ wholeLength :=
    Nat.le_trans ((Nat.length_toDigits_le_iff (by decide) (by decide)).mpr small) short
  have zero : ¬ ((Nat.toDigits 10 n).head? = some '0' ∧ (Nat.toDigits 10 n).length ≠ 1) := by
    rintro ⟨head, several⟩
    rw [eq_zero_of_head_toDigits head] at several
    exact several rfl
  have value : Numeral.natural (Nat.toDigits 10 n) = n := Nat.ofDigitChars_ten_toDigits
  have filled : Nat.toDigits 10 n ≠ [] := Nat.toDigits_ne_nil
  -- Only what was found of the digits matters from here on, not what number they are from.
  generalize Nat.toDigits 10 n = chars at *
  cases chars with
  | nil => exact absurd rfl filled
  | cons c rest =>
    have unsigned : negated (c :: rest) = (false, c :: rest) := by
      unfold negated
      split
      case h_1 same =>
        rw [(List.cons.inj same).1] at digits
        exact absurd (digits _ List.mem_cons_self) (by decide)
      case h_2 => rfl
    rw [plainWhole, unsigned]
    simp only [all, value]
    rw [if_neg, if_neg (by omega), if_neg (by simp)]
    · simp
    · simpa using zero

theorem afterZeros_of_wordy {chars : List Char} (wordy : ∀ c ∈ chars, c.isDigit = false) :
    afterZeros chars = none := by
  unfold afterZeros
  split
  case h_1 => rfl
  case h_2 => exact absurd (wordy _ List.mem_cons_self) (by decide)
  case h_3 => rw [wordy _ List.mem_cons_self]; rfl

theorem negated_subset (chars : List Char) : (negated chars).2 ⊆ chars := by
  unfold negated
  split
  · exact List.subset_cons_self _ _
  · exact List.Subset.refl _

theorem signed_subset (chars : List Char) : (signed chars).2 ⊆ chars := by
  unfold signed
  split
  · exact List.subset_cons_self _ _
  · exact List.subset_cons_self _ _
  · exact List.Subset.refl _

theorem takeWhile_isDigit_of_wordy {chars : List Char} (wordy : ∀ c ∈ chars, c.isDigit = false) :
    chars.takeWhile Char.isDigit = [] := by
  cases chars with
  | nil => rfl
  | cons c rest => rw [List.takeWhile_cons_of_neg (by simp [wordy c List.mem_cons_self])]

theorem wholeReading_of_wordy {wholeLength : Nat} {chars : List Char}
    (wordy : ∀ c ∈ chars, c.isDigit = false) : wholeReading wholeLength chars = .unreadable := by
  have plain : plainWhole wholeLength chars = .unreadable := by
    rw [plainWhole]
    simp only [takeWhile_isDigit_of_wordy fun c listed => wordy c (negated_subset chars listed)]
    rfl
  have loose : plainForm? chars = none := by
    rw [plainForm?]
    simp only [afterZeros_of_wordy fun c listed =>
      wordy c (Text.mem_of_mem_trimmed (signed_subset _ listed))]
    rfl
  rw [wholeReading, plain, loose]
  rfl

theorem whole_of_isWhole {wholeLength : Nat} (short : 18 ≤ wholeLength) {value : Json} {read : Int}
    (meant : IsWhole value read) : whole wholeLength value = .ok read := by
  cases meant with
  | int | bool => rfl
  | float found small => exact wholeOfDecimal_eq_ok.mpr ⟨found, small⟩
  | text small =>
    rw [whole, wholeOfText, Nat.toString_eq_repr, Nat.toList_repr, wholeReading,
      plainWhole_toDigits short small]

theorem not_succeeds_whole {wholeLength : Nat} {value : Json} (other : IsNoWhole value) :
    ¬ Succeeds (whole wholeLength value) := by
  cases other with
  | float broken =>
    rintro ⟨read, taken⟩
    rw [(wholeOfDecimal_eq_ok.mp taken).1] at broken
    cases broken
  | text wordy =>
    rw [whole, wholeOfText, wholeReading_of_wordy wordy]
    exact not_succeeds_error _
  | null | arr | obj => exact not_succeeds_error _

end Conversion

namespace Numeral

theorem unsigned_cases (chars : List Char) :
    (unsigned chars).2 = chars ∨ ∃ sign ∈ ['-', '+'], chars = sign :: (unsigned chars).2 := by
  unfold unsigned
  split
  · exact .inr ⟨'-', by decide, rfl⟩
  · exact .inr ⟨'+', by decide, rfl⟩
  · exact .inl rfl

def IsPart (c : Char) : Prop := c.isDigit = true ∨ c ∈ ['-', '+', '.', 'e', 'E']

theorem isPart_of_unsigned {chars : List Char} (parts : ∀ c ∈ (unsigned chars).2, IsPart c) :
    ∀ c ∈ chars, IsPart c := by
  obtain same | ⟨sign, known, same⟩ := unsigned_cases chars
  · rwa [same] at parts
  · rw [same]
    have among : sign ∈ ['-', '+', '.', 'e', 'E'] := List.mem_append_left ['.', 'e', 'E'] known
    exact List.forall_mem_cons.mpr ⟨.inr among, parts⟩

theorem isDigit_of_digitsOnly {chars : List Char} {n : Nat} (read : digitsOnly? chars = some n) :
    ∀ c ∈ chars, c.isDigit = true := by
  rw [digitsOnly?] at read
  split at read
  case isTrue => cases read
  case isFalse filled =>
    simp only [Bool.or_eq_true, Bool.not_eq_true', not_or, Bool.not_eq_false,
      List.all_eq_true] at filled
    exact filled.2

theorem isPart_of_exponent {chars : List Char} {power : Int} (read : exponent? chars = some power) :
    ∀ c ∈ chars, IsPart c := by
  unfold exponent? at read
  split at read
  case h_1 => exact fun _ listed => absurd listed List.not_mem_nil
  case h_2 mark rest =>
    split at read
    case isFalse => cases read
    case isTrue marks =>
      have known : IsPart mark := by
        rw [isExponentMark, Bool.or_eq_true, beq_iff_eq, beq_iff_eq] at marks
        obtain rfl | rfl := marks <;> exact .inr (by decide)
      have taken : (digitsOnly? (unsigned rest).2 >>= fun n => some (n : Int)).map
          (fun n => if (unsigned rest).1 then -n else n) = some power := read
      obtain ⟨_, cast, -⟩ := Option.map_eq_some_iff.mp taken
      obtain ⟨n, digits, -⟩ := Option.bind_eq_some_iff.mp cast
      have parts : ∀ c ∈ (unsigned rest).2, IsPart c :=
        fun c listed => .inl (isDigit_of_digitsOnly digits c listed)
      exact List.forall_mem_cons.mpr ⟨known, isPart_of_unsigned parts⟩

theorem isPart_of_fraction {chars : List Char} (tail : ∀ c ∈ (fractionOf chars).2, IsPart c) :
    ∀ c ∈ chars, IsPart c := by
  unfold fractionOf at tail
  split at tail
  case h_1 rest =>
    refine List.forall_mem_cons.mpr ⟨.inr (by decide), fun c listed => ?_⟩
    rw [← List.takeWhile_append_dropWhile (p := Char.isDigit) (l := rest)] at listed
    rcases List.mem_append.mp listed with digit | later
    · exact .inl (List.mem_takeWhile_imp digit)
    · exact tail c later
  case h_2 => exact tail

theorem isPart_of_ofChars {chars : List Char} {n : Numeral} (spelled : ofChars? chars = some n) :
    ∀ c ∈ chars, IsPart c := by
  rw [ofChars?] at spelled
  refine isPart_of_unsigned fun c listed => ?_
  rw [← List.takeWhile_append_dropWhile (p := Char.isDigit) (l := (unsigned chars).2)] at listed
  rcases List.mem_append.mp listed with digit | later
  · exact .inl (List.mem_takeWhile_imp digit)
  · dsimp only at spelled
    split at spelled
    case isTrue => cases spelled
    case isFalse =>
      obtain ⟨power, read, -⟩ := Option.bind_eq_some_iff.mp spelled
      exact isPart_of_fraction (isPart_of_exponent read) c later

theorem toNat_of_isDigit {c : Char} (digit : c.isDigit = true) :
    48 ≤ c.toNat ∧ c.toNat ≤ 57 := by
  simp only [Char.isDigit, Bool.and_eq_true, decide_eq_true_eq] at digit
  exact ⟨digit.1, digit.2⟩

theorem isWhite_of_isPart {c : Char} (part : IsPart c) : Text.isWhite c = false := by
  obtain digit | known := part
  · have bounds := toNat_of_isDigit digit
    simp only [Text.isWhite, Text.within, Text.whiteRanges, List.any_cons, List.any_nil,
      Bool.or_eq_false_iff, Bool.and_eq_false_iff, decide_eq_false_iff_not, and_true]
    omega
  · simp only [List.mem_cons, List.not_mem_nil, or_false] at known
    rcases known with rfl | rfl | rfl | rfl | rfl <;> rfl

theorem toLower_ne_n_of_isPart {c : Char} (part : IsPart c) : c.toLower ≠ 'n' := by
  obtain digit | known := part
  · intro same
    have bounds := toNat_of_isDigit digit
    have small : c.toLower = c := by
      refine dif_neg ?_
      rintro ⟨capital, -⟩
      have large : 65 ≤ c.toNat := capital
      omega
    rw [small] at same
    subst same
    exact absurd digit (by decide)
  · simp only [List.mem_cons, List.not_mem_nil, or_false] at known
    rcases known with rfl | rfl | rfl | rfl | rfl <;> decide

end Numeral

namespace Conversion

/-- The names of numbers without digits have an n. -/
theorem namedNumber?_of_plain {chars : List Char} (plain : ∀ c ∈ chars, c.toLower ≠ 'n') :
    namedNumber? chars = none := by
  have body : 'n' ∉ (Numeral.unsigned chars).2.map Char.toLower := by
    rw [List.mem_map]
    rintro ⟨c, listed, same⟩
    refine plain c ?_ same
    obtain all | ⟨sign, -, all⟩ := Numeral.unsigned_cases chars
    · rwa [all] at listed
    · rw [all]
      exact List.mem_cons_of_mem _ listed
  have spelled {name : String}
      (named : String.ofList ((Numeral.unsigned chars).2.map Char.toLower) = name) :
      'n' ∉ name.toList := by
    rw [← named, String.toList_ofList]
    exact body
  rw [namedNumber?]
  split
  rename_i negative rest same
  rw [same] at spelled
  split
  case h_1 named => exact absurd (by decide) (spelled named)
  case h_2 named => exact absurd (by decide) (spelled named)
  case h_3 named => exact absurd (by decide) (spelled named)
  case h_4 => rfl

theorem number_of_isNumber {value : Json} {read : Decimal} (meant : IsNumber value read) :
    number value = .ok read := by
  cases meant with
  | float | bool => rfl
  | int finite =>
    rw [number]
    split
    case h_1 infinite => exact absurd infinite (finite _)
    case h_2 => rfl
  | text spelled =>
    have parts := Numeral.isPart_of_ofChars spelled
    have plain := namedNumber?_of_plain fun c listed =>
      Numeral.toLower_ne_n_of_isPart (parts c listed)
    rw [number, numberOfText,
      Text.trimmed_of_plain fun c listed => Numeral.isWhite_of_isPart (parts c listed),
      plainNumber?, plain, spelled]
    rfl

theorem fraction_of_wordy {chars : List Char} (wordy : ∀ c ∈ chars, c.isDigit = false) :
    (Numeral.fractionOf chars).1 = [] := by
  unfold Numeral.fractionOf
  split
  case h_1 rest =>
    exact takeWhile_isDigit_of_wordy fun c listed => wordy c (List.mem_cons_of_mem _ listed)
  case h_2 => rfl

theorem plainNumber?_of_wordy {chars : List Char}
    (wordy : ∀ c ∈ chars, c.isDigit = false ∧ c.toLower ≠ 'n') : plainNumber? chars = none := by
  have body : ∀ c ∈ (Numeral.unsigned chars).2, c.isDigit = false := by
    intro c listed
    obtain all | ⟨sign, -, all⟩ := Numeral.unsigned_cases chars
    · exact (wordy c (all ▸ listed)).1
    · exact (wordy c (all ▸ List.mem_cons_of_mem _ listed)).1
  have whole := takeWhile_isDigit_of_wordy body
  have fraction : (Numeral.fractionOf ((Numeral.unsigned chars).2.dropWhile Char.isDigit)).1 = [] :=
    fraction_of_wordy fun c listed => body c (List.dropWhile_subset _ listed)
  have unread : Numeral.ofChars? chars = none := by
    rw [Numeral.ofChars?]
    dsimp only
    rw [whole, fraction]
    rfl
  rw [plainNumber?, namedNumber?_of_plain fun c listed => (wordy c listed).2, unread]
  rfl

theorem withoutUnderscores?_subset {chars digits : List Char}
    (read : withoutUnderscores? chars = some digits) : digits ⊆ chars := by
  rw [withoutUnderscores?] at read
  split at read
  case isTrue => cases read
  case isFalse =>
    cases read
    exact List.filter_sublist.subset

theorem not_succeeds_number {value : Json} (other : IsNoNumber value) :
    ¬ Succeeds (number value) := by
  cases other with
  | @text text wordy =>
    have trimmed : plainNumber? (Text.trimmed Text.isWhite text.toList) = none :=
      plainNumber?_of_wordy fun c listed => wordy c (Text.mem_of_mem_trimmed listed)
    have joined : (withoutUnderscores? text.toList).bind plainNumber? = none := by
      cases read : withoutUnderscores? text.toList with
      | none => rfl
      | some digits =>
        exact plainNumber?_of_wordy fun c listed => wordy c (withoutUnderscores?_subset read listed)
    rw [number, numberOfText, trimmed, joined]
    exact not_succeeds_error _
  | null | arr | obj => exact not_succeeds_error _

end Conversion

end SearchRequest
