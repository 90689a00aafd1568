import SearchRequest.Decimal.Numeral
import SearchRequest.Failure

/-!
How the installed library reads a value as the type of its field. Texts read as numbers and flags,
whole numbers as flags and the other way round; what does not read is refused with its cause.
-/

namespace SearchRequest.Conversion

def text : Json → Except SettingFault String
  | .str value => .ok value
  | _ => .error .text

def optionalText : Json → Except SettingFault (Option String)
  | .null => .ok none
  | .str value => .ok (some value)
  | _ => .error .text

inductive WholeReading
  | whole (value : Int)
  | tooLong
  | unreadable
deriving DecidableEq, Repr

def negated : List Char → Bool × List Char
  | '-' :: rest => (true, rest)
  | all => (false, all)

/-- Digits without leading zeros behind an optional minus. Digits past the greatest length are
too many whatever follows them. -/
def plainWhole (wholeLength : Nat) (chars : List Char) : WholeReading :=
  let (negative, body) := negated chars
  let digits := body.takeWhile Char.isDigit
  if digits.isEmpty || (digits.head? == some '0' && digits.length != 1) then .unreadable
  else if wholeLength < digits.length then .tooLong
  else if digits.length != body.length then .unreadable
  else
    let magnitude : Int := Numeral.natural digits
    .whole (if negative then -magnitude else magnitude)

def isZeroOrUnderscore (c : Char) : Bool := c == '0' || c == '_'

/-- The digits after leading zeros and the underscores among them, of which the last one is kept
when no other digit follows. A minus may stand behind the zeros. -/
def afterZeros : List Char → Option (List Char)
  | [] => none
  | '0' :: rest =>
      let last := (rest.takeWhile isZeroOrUnderscore).getLast?.getD '0'
      match rest.dropWhile isZeroOrUnderscore with
      | [] => some [last]
      | '.' :: tail => some (last :: '.' :: tail)
      | c :: tail => if c.isDigit || c == '-' then some (c :: tail) else none
  | c :: rest => if c.isDigit then some (c :: rest) else none

def withoutZeroFraction (chars : List Char) : List Char :=
  match chars.dropWhile (· != '.') with
  | '.' :: '0' :: fraction =>
      if fraction.all (· == '0') then chars.takeWhile (· != '.') else chars
  | _ => chars

def doubled (c : Char) : List Char → Bool
  | a :: b :: rest => (a == c && b == c) || doubled c (b :: rest)
  | _ => false

def withoutUnderscores? (chars : List Char) : Option (List Char) :=
  if chars.head? == some '_' || chars.getLast? == some '_' || doubled '_' chars ||
      !chars.contains '_' then none
  else some (chars.filter (· != '_'))

def signed : List Char → List Char × List Char
  | '-' :: rest => (['-'], rest)
  | '+' :: rest => ([], rest)
  | all => ([], all)

/-- The plain form of a whole number in a looser one: white space around it, a plus, leading
zeros, single underscores between the digits, and a fraction of zeros. -/
def plainForm? (chars : List Char) : Option (List Char) := do
  let (sign, body) := signed (Text.trimmed Text.isWhite chars)
  let stripped ← afterZeros body
  let digits := withoutZeroFraction stripped
  some (sign ++ (withoutUnderscores? digits).getD digits)

/-- A looser form of a number that is too long is unreadable. -/
def wholeReading (wholeLength : Nat) (chars : List Char) : WholeReading :=
  match plainWhole wholeLength chars with
  | .unreadable => match (plainForm? chars).map (plainWhole wholeLength) with
      | some (.whole value) => .whole value
      | _ => .unreadable
  | reading => reading

def wholeOfText (wholeLength : Nat) (value : String) : Except SettingFault Int :=
  match wholeReading wholeLength value.toList with
  | .whole n => .ok n
  | .tooLong => .error .wholeSize
  | .unreadable => .error .wholeText

def wholeLimit : Int := Int.ofNat (Nat.pow 2 63)

def wholeOfDecimal (value : Decimal) : Except SettingFault Int :=
  match value with
  | .infinite _ | .nan => .error .notFinite
  | .finite .. => match value.whole? with
      | none => .error .wholePart
      | some n => if -wholeLimit < n ∧ n < wholeLimit then .ok n else .error .wholeSize

def whole (wholeLength : Nat) : Json → Except SettingFault Int
  | .int value => .ok value
  | .bool value => .ok (if value then 1 else 0)
  | .float value => wholeOfDecimal value
  | .str value => wholeOfText wholeLength value
  | _ => .error .wholeType

def namedNumber? (chars : List Char) : Option Decimal :=
  let (negative, body) := Numeral.unsigned chars
  match String.ofList (body.map Char.toLower) with
  | "inf" | "infinity" => some (.infinite negative)
  | "nan" => some .nan
  | _ => none

def plainNumber? (chars : List Char) : Option Decimal :=
  (namedNumber? chars).or ((Numeral.ofChars? chars).map Numeral.decimal)

def numberOfText (value : String) : Except SettingFault Decimal :=
  let chars := value.toList
  match (plainNumber? (Text.trimmed Text.isWhite chars)).or
      ((withoutUnderscores? chars).bind plainNumber?) with
  | some n => .ok n
  | none => .error .numberText

def number : Json → Except SettingFault Decimal
  | .float value => .ok value
  | .bool value => .ok (if value then .one else .zero)
  | .int value => match Decimal.ofInt value with
      | .infinite _ => .error .numberType
      | n => .ok n
  | .str value => numberOfText value
  | _ => .error .numberType

def trueTexts : List String := ["1", "true", "t", "yes", "y", "on"]

def falseTexts : List String := ["0", "false", "f", "no", "n", "off"]

def flagOfText (value : String) : Except SettingFault Bool :=
  let small := String.ofList (value.toList.map Char.toLower)
  if trueTexts.contains small then .ok true
  else if falseTexts.contains small then .ok false
  else .error .flagText

def flagOfWhole (value : Int) : Except SettingFault Bool :=
  if value = 1 then .ok true else if value = 0 then .ok false else .error .flagText

/-- A number that is not whole, or out of the range of machine words, is no flag at all. -/
def flag : Json → Except SettingFault Bool
  | .bool value => .ok value
  | .str value => flagOfText value
  | .int value =>
      if -wholeLimit ≤ value ∧ value < wholeLimit then flagOfWhole value else .error .flagType
  | .float value => match wholeOfDecimal value with
      | .ok n => flagOfWhole n
      | .error _ => .error .flagType
  | _ => .error .flagType

def choice (fault : SettingFault) (names : List String) : Json → Except SettingFault String
  | .str value => if names.contains value then .ok value else .error fault
  | _ => .error fault

end SearchRequest.Conversion
