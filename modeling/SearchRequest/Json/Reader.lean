import SearchRequest.Decimal.Numeral
import SearchRequest.Json.Basic

/-!
Reading JSON text. A numeral without point and exponent is a whole number of any size, every
other numeral a floating point number, and so is the name of one that no numeral spells. Of two
entries with one key the later value stands, at the place of the earlier.
-/

namespace SearchRequest.Json.Reader

def isSpace (c : Char) : Bool := c == ' ' || c == '\t' || c == '\n' || c == '\r'

def skip (text : List Char) : List Char := text.dropWhile isSpace

def quote : Char := Char.ofNat 0x22

def backslash : Char := Char.ofNat 0x5c

def hexDigit? (c : Char) : Option Nat :=
  if c.isDigit then some (c.toNat - '0'.toNat)
  else if 'a' ≤ c && c ≤ 'f' then some (c.toNat - 'a'.toNat + 10)
  else if 'A' ≤ c && c ≤ 'F' then some (c.toNat - 'A'.toNat + 10)
  else none

def hex4? (a b c d : Char) : Option Nat := do
  let w ← hexDigit? a
  let x ← hexDigit? b
  let y ← hexDigit? c
  let z ← hexDigit? d
  some (((w * 16 + x) * 16 + y) * 16 + z)

def isHigh (unit : Nat) : Bool := 0xd800 ≤ unit && unit < 0xdc00

def isLow (unit : Nat) : Bool := 0xdc00 ≤ unit && unit < 0xe000

def replacement : Char := Char.ofNat 0xfffd

/-- A unit that is half of a pair stands for no character of its own. -/
def ofUnit (unit : Nat) : Char := if isHigh unit || isLow unit then replacement else Char.ofNat unit

def ofPair (high low : Nat) : Char :=
  Char.ofNat (0x10000 + (high - 0xd800) * 0x400 + (low - 0xdc00))

def shortEscape? (c : Char) : Option Char :=
  if c == quote || c == backslash || c == '/' then some c
  else match c with
    | 'b' => some (Char.ofNat 8)
    | 'f' => some (Char.ofNat 12)
    | 'n' => some '\n'
    | 'r' => some '\r'
    | 't' => some '\t'
    | _ => none

def escape? : List Char → Option (Char × List Char)
  | 'u' :: a :: b :: c :: d :: rest => do
      let unit ← hex4? a b c d
      match isHigh unit, rest with
      | true, s :: 'u' :: e :: f :: g :: h :: more =>
          match s == backslash, hex4? e f g h with
          | true, some low =>
              if isLow low then some (ofPair unit low, more) else some (ofUnit unit, rest)
          | _, _ => some (ofUnit unit, rest)
      | _, _ => some (ofUnit unit, rest)
  | c :: rest => (shortEscape? c).map fun e => (e, rest)
  | [] => none

/-- The rest of a text, up to its quote; `done` holds what came before, the last first. -/
def characters (done : List Char) : Nat → List Char → Option (String × List Char)
  | 0, _ => none
  | _, [] => none
  | fuel + 1, c :: rest =>
      if c == quote then some (String.ofList done.reverse, rest)
      else if c == backslash then
        match escape? rest with
        | none => none
        | some (e, more) => characters (e :: done) fuel more
      else characters (c :: done) fuel rest

def isNumeralChar (c : Char) : Bool :=
  c.isDigit || c == '-' || c == '+' || c == '.' || c == 'e' || c == 'E'

def isWhole (token : List Char) : Bool := token.all fun c => c.isDigit || c == '-'

def wellFormed (n : Numeral) (token : List Char) : Bool :=
  !n.whole.isEmpty && (n.whole.head? != some '0' || n.whole.length == 1) &&
    (!token.contains '.' || !n.fraction.isEmpty) && token.head? != some '+'

def numeral? (token : List Char) : Option Json := do
  let n ← Numeral.ofChars? token
  if !wellFormed n token then none
  else if isWhole token then
    let magnitude : Int := Numeral.natural n.whole
    some (.int (if n.negative then -magnitude else magnitude))
  else some (.float n.decimal)

def word? (token : List Char) : Option Json :=
  match String.ofList token with
  | "null" => some .null
  | "true" => some (.bool true)
  | "false" => some (.bool false)
  | "NaN" => some (.float .nan)
  | "Infinity" => some (.float (.infinite false))
  | "-Infinity" => some (.float (.infinite true))
  | _ => none

def atom? (text : List Char) : Option (Json × List Char) :=
  let isPart (c : Char) : Bool := isNumeralChar c || c.isAlpha
  let token := text.takeWhile isPart
  ((word? token).or (numeral? token)).map fun value => (value, text.dropWhile isPart)

/-- Adds an entry to those before it, the last of which comes first. -/
def enter (done : Object) (key : String) (value : Json) : Object :=
  if done.has key then done.set key value else (key, value) :: done

mutual

def value : Nat → List Char → Option (Json × List Char)
  | 0, _ => none
  | fuel + 1, text =>
      match skip text with
      | '[' :: rest =>
          match skip rest with
          | ']' :: more => some (.arr [], more)
          | body => items fuel [] body
      | '\x7b' :: rest =>
          match skip rest with
          | '\x7d' :: more => some (.obj [], more)
          | body => entries fuel [] body
      | c :: rest =>
          if c == quote then
            (characters [] (rest.length + 1) rest).map fun read => (.str read.1, read.2)
          else atom? (c :: rest)
      | [] => none

def items : Nat → List Json → List Char → Option (Json × List Char)
  | 0, _, _ => none
  | fuel + 1, done, text =>
      match value fuel text with
      | none => none
      | some (item, rest) =>
          match skip rest with
          | ',' :: more => items fuel (item :: done) more
          | ']' :: more => some (.arr (item :: done).reverse, more)
          | _ => none

def entries : Nat → Object → List Char → Option (Json × List Char)
  | 0, _, _ => none
  | fuel + 1, done, text =>
      match skip text with
      | c :: rest =>
          if c != quote then none
          else match characters [] (rest.length + 1) rest with
            | none => none
            | some (key, tail) =>
                match skip tail with
                | ':' :: body =>
                    match value fuel body with
                    | none => none
                    | some (item, more) =>
                        let now := enter done key item
                        match skip more with
                        | ',' :: next => entries fuel now next
                        | '\x7d' :: next => some (.obj now.reverse, next)
                        | _ => none
                | _ => none
      | [] => none

end

def depthBound (text : List Char) : Nat := text.length + 1

end SearchRequest.Json.Reader

namespace SearchRequest.Json

def ofText (text : String) : Option Json :=
  let chars := text.toList
  match Reader.value (Reader.depthBound chars) chars with
  | some (json, rest) => if (Reader.skip rest).isEmpty then some json else none
  | none => none

end SearchRequest.Json
