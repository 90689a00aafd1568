import SearchRequest.Decimal.Numeral
import SearchRequest.Proofs.Outcome
import SearchRequest.Settings.Library
import SearchRequest.Text.Lowercase

/-!
What is assumed of the library that settings are read with. Which of several names counts that
differ in the case of letters alone is left open, and so are the looser spellings of numbers.
-/

namespace SearchRequest

/-- The value for a name is that of an entry which goes by the name when the case of letters does
not count. There is one as soon as an entry's name fits, and entries of other names do not
matter. -/
structure Picks {α : Type} (fits : String → String → Prop)
    (pick : List (String × α) → String → Option α) : Prop where
  found {entries : List (String × α)} {name : String} : Text.lowered name = name →
    (∃ entry ∈ entries, fits entry.1 name) → (pick entries name).isSome
  among {entries : List (String × α)} {name : String} {value : α} :
    pick entries name = some value →
      ∃ entry ∈ entries, Text.lowered entry.1 = name ∧ entry.2 = value
  alone (entries : List (String × α)) (name : String) :
    pick (entries.filter fun entry => Text.lowered entry.1 == name) name = pick entries name

section Names

variable {α : Type}

def IsSilent (entries : List (String × α)) (name : String) : Prop :=
  ∀ entry ∈ entries, Text.lowered entry.1 ≠ name

structure IsOnly (entries : List (String × α)) (name : String) (entry : String × α) : Prop where
  listed : entry ∈ entries
  named : Text.lowered entry.1 = name
  only : ∀ other ∈ entries, Text.lowered other.1 = name → other = entry

namespace Picks

variable {fits : String → String → Prop} {pick : List (String × α) → String → Option α}
  (picks : Picks fits pick) {entries : List (String × α)} {name : String}

include picks

theorem eq_none (silent : IsSilent entries name) : pick entries name = none := by
  cases picked : pick entries name with
  | none => rfl
  | some value =>
    obtain ⟨entry, listed, named, -⟩ := picks.among picked
    exact absurd named (silent entry listed)

theorem eq_some {entry : String × α} (only : IsOnly entries name entry)
    (small : Text.lowered name = name) (fit : fits entry.1 name) :
    pick entries name = some entry.2 := by
  obtain ⟨value, picked⟩ := Option.isSome_iff_exists.mp
    (picks.found small ⟨entry, only.listed, fit⟩)
  obtain ⟨other, listed, named, rfl⟩ := picks.among picked
  rw [picked, only.only other listed named]

theorem filter {keep : String × α → Bool}
    (kept : ∀ entry, Text.lowered entry.1 = name → keep entry = true) :
    pick (entries.filter keep) name = pick entries name := by
  have all (entry : String × α) : (Text.lowered entry.1 == name && keep entry) =
      (Text.lowered entry.1 == name) := by
    rw [Bool.and_eq_left_iff_imp, beq_iff_eq]
    exact kept entry
  rw [← picks.alone, List.filter_filter, funext all, picks.alone]

end Picks

end Names

inductive IsFlag : Json → Bool → Prop
  | bool (value : Bool) : IsFlag (.bool value) value
  | one : IsFlag (.int 1) true
  | zero : IsFlag (.int 0) false
  | floatOne {number : Decimal} (whole : number.whole? = some 1) : IsFlag (.float number) true
  | floatZero {number : Decimal} (whole : number.whole? = some 0) : IsFlag (.float number) false
  | yes {text : String} (known : String.ofList (text.toList.map Char.toLower) ∈
      ["1", "true", "t", "yes", "y", "on"]) : IsFlag (.str text) true
  | no {text : String} (known : String.ofList (text.toList.map Char.toLower) ∈
      ["0", "false", "f", "no", "n", "off"]) : IsFlag (.str text) false

inductive IsWhole : Json → Int → Prop
  | int (value : Int) : IsWhole (.int value) value
  | bool (value : Bool) : IsWhole (.bool value) (if value then 1 else 0)
  | float {number : Decimal} {value : Int} (whole : number.whole? = some value)
      (small : value.natAbs < Nat.pow 2 63) : IsWhole (.float number) value
  | text {value : Nat} (small : value < Nat.pow 10 18) : IsWhole (.str (toString value)) value

inductive IsNoWhole : Json → Prop
  | float {number : Decimal} (broken : number.whole? = none) : IsNoWhole (.float number)
  | text {text : String} (wordy : ∀ c ∈ text.toList, c.isDigit = false) : IsNoWhole (.str text)
  | null : IsNoWhole .null
  | arr (items : List Json) : IsNoWhole (.arr items)
  | obj (entries : Object) : IsNoWhole (.obj entries)

inductive IsNumber : Json → Decimal → Prop
  | float (value : Decimal) : IsNumber (.float value) value
  | int {value : Int} (finite : ∀ negative, Decimal.ofInt value ≠ .infinite negative) :
      IsNumber (.int value) (Decimal.ofInt value)
  | bool (value : Bool) : IsNumber (.bool value) (if value then .one else .zero)
  | text {text : String} {numeral : Numeral}
      (spelled : Numeral.ofChars? text.toList = some numeral) :
      IsNumber (.str text) numeral.decimal

/-- The numbers without digits have an n in their names. -/
inductive IsNoNumber : Json → Prop
  | text {text : String}
      (wordy : ∀ c ∈ text.toList, c.isDigit = false ∧ c.toLower ≠ 'n') : IsNoNumber (.str text)
  | null : IsNoNumber .null
  | arr (items : List Json) : IsNoNumber (.arr items)
  | obj (entries : Object) : IsNoNumber (.obj entries)

namespace SettingsLibrary

/-- Names that begin with an underscore are those of the library's own arguments. -/
def IsPlain (given : Object) : Prop := ∀ name ∈ given.keys, name.toList.head? ≠ some '_'

instance (given : Object) : Decidable (IsPlain given) :=
  inferInstanceAs (Decidable (∀ name ∈ given.keys, _))

/-- Variables are told by their names in any case of letters. -/
structure IsCaseless (config : SettingsConfig) : Prop where
  inexact : config.exactCase = false
  small : ∀ field ∈ config.fields, Text.lowered (config.lead ++ field) = config.lead ++ field

/-- How the library collects values: each field stands as the first source sets it that does, and
without arguments of its own it looks into no further files or directories. -/
structure Collects (library : SettingsLibrary) : Prop where
  entryFor : Picks (fun given name => given = name) library.entryFor
  variableFor : Picks (fun given name => Text.lowered given = name) library.variableFor
  handed {config : SettingsConfig} (files : FileSystem) (env : Variables) {given : Object} :
    IsCaseless config → IsPlain given →
      ∃ first second, library.handed config files env given =
          .ok ⟨.ok first, .ok second, .ok [], .ok []⟩ ∧
        ∀ field ∈ config.fields, first.get? field = library.entryFor given field ∧
          second.get? field = (library.variableFor env (config.lead ++ field)).map .str
  merged (config : SettingsConfig) {given : Object} (read : List Object) : IsPlain given →
    ∃ values, library.merged config given (read.map .ok) = .ok values ∧
      ∀ field ∈ config.fields, values.get? field = read.findSome? (·.get? field)

structure Converts (library : SettingsLibrary) : Prop where
  text {value : Json} {text : String} : library.text value = .ok text ↔ value = .str text
  optionalText {value : Json} {text : Option String} :
    library.optionalText value = .ok text ↔ value = .ofText? text
  flag {value : Json} {flag : Bool} : library.flag value = .ok flag ↔ IsFlag value flag
  number {value : Json} {number : Decimal} :
    IsNumber value number → library.number value = .ok number
  noNumber {value : Json} : IsNoNumber value → ¬ Succeeds (library.number value)
  whole {value : Json} {number : Int} : IsWhole value number → library.whole value = .ok number
  noWhole {value : Json} : IsNoWhole value → ¬ Succeeds (library.whole value)
  literal {names : List String} {value : Json} {name : String} :
    library.literal names value = .ok name ↔ value = .str name ∧ name ∈ names
  member {names : List String} {value : Json} {name : String} :
    library.member names value = .ok name ↔ value = .str name ∧ name ∈ names

structure Lawful (library : SettingsLibrary) : Prop extends library.Collects, library.Converts

end SettingsLibrary

end SearchRequest
