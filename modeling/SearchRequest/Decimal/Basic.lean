/-!
Floating point numbers, each kept as the shortest decimal that reads back as it.
This file has the type and its written form; `Decimal.Nearest` has the rounding that
produces values of it from arbitrary decimal literals.
-/

namespace SearchRequest

/-- `finite s d e` is the number `d * 10 ^ e`, negated when `s` holds. Zero keeps its sign. -/
inductive Decimal
  | finite (negative : Bool) (digits : Nat) (exponent : Int)
  | infinite (negative : Bool)
  | nan
deriving DecidableEq, Repr, Inhabited

namespace Decimal

def zero : Decimal := .finite false 0 0

def one : Decimal := .finite false 1 0

def isZero : Decimal → Bool
  | .finite _ digits _ => digits == 0
  | _ => false

/-- Whether the number is at most zero. It is false of `nan`, which has no order. -/
def atMostZero : Decimal → Bool
  | .finite negative digits _ => negative || digits == 0
  | .infinite negative => negative
  | .nan => false

def zeros (count : Nat) : List Char := List.replicate count '0'

/-- Scientific exponents from the first to before the second are written out in full. -/
def positionalRange : Int × Int := (-4, 16)

/-- Digits with the point after the first `point` of them; `point` may lie outside. -/
def positional (digits : List Char) (point : Int) : List Char :=
  let count : Int := digits.length
  if point ≤ 0 then '0' :: '.' :: (zeros (-point).toNat ++ digits)
  else if count ≤ point then digits ++ zeros (point - count).toNat ++ ['.', '0']
  else digits.take point.toNat ++ '.' :: digits.drop point.toNat

def scientific (digits : List Char) (exponent : Int) : List Char :=
  let mark := if exponent < 0 then '-' else '+'
  let written := (toString exponent.natAbs).toList
  let padded := zeros (2 - written.length) ++ written
  let lead := match digits with
    | first :: second :: rest => first :: '.' :: second :: rest
    | short => short
  lead ++ 'e' :: mark :: padded

def signed (negative : Bool) (body : List Char) : String :=
  String.ofList (if negative then '-' :: body else body)

def text : Decimal → String
  | .finite negative digits exponent =>
      if digits = 0 then signed negative ['0', '.', '0']
      else
        let written := (toString digits).toList
        let point := written.length + exponent
        let leading := point - 1
        if positionalRange.1 ≤ leading ∧ leading < positionalRange.2 then
          signed negative (positional written point)
        else signed negative (scientific written leading)
  | .infinite negative => signed negative ['i', 'n', 'f']
  | .nan => "nan"

end Decimal

end SearchRequest
