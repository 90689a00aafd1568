import SearchRequest.Decimal.Nearest

/-!
Numerals: a sign, digits before and after a point, and a power of ten. `Numeral.ofChars?` reads
the free form, in which either side of the point may be missing but not both.
-/

namespace SearchRequest

structure Numeral where
  negative : Bool
  whole : List Char
  fraction : List Char
  exponent : Int
deriving DecidableEq, Repr

namespace Numeral

def digitValue (c : Char) : Nat := c.toNat - '0'.toNat

def natural (digits : List Char) : Nat := digits.foldl (fun n c => 10 * n + digitValue c) 0

def decimal (n : Numeral) : Decimal :=
  Decimal.nearest n.negative (natural (n.whole ++ n.fraction)) (n.exponent - n.fraction.length)

def unsigned : List Char → Bool × List Char
  | '-' :: rest => (true, rest)
  | '+' :: rest => (false, rest)
  | chars => (false, chars)

def digitsOnly? (chars : List Char) : Option Nat :=
  if chars.isEmpty || !chars.all Char.isDigit then none else some (natural chars)

def isExponentMark (c : Char) : Bool := c == 'e' || c == 'E'

def exponent? : List Char → Option Int
  | [] => some 0
  | mark :: rest =>
      if isExponentMark mark then
        let (negative, digits) := unsigned rest
        (digitsOnly? digits).map fun n => if negative then -(n : Int) else n
      else none

def fractionOf : List Char → List Char × List Char
  | '.' :: rest => (rest.takeWhile Char.isDigit, rest.dropWhile Char.isDigit)
  | chars => ([], chars)

def ofChars? (chars : List Char) : Option Numeral := do
  let (negative, body) := unsigned chars
  let whole := body.takeWhile Char.isDigit
  let (fraction, tail) := fractionOf (body.dropWhile Char.isDigit)
  if whole.isEmpty && fraction.isEmpty then none
  else
    let exponent ← exponent? tail
    some ⟨negative, whole, fraction, exponent⟩

end Numeral

end SearchRequest
