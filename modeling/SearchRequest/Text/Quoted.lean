import SearchRequest.Text.Printable

/-!
Quoted text as it stands in messages: between apostrophes, or between double quotes when the
text has an apostrophe and no double quote. What cannot be printed is written as an escape.
-/

namespace SearchRequest.Text

def apostrophe : Char := Char.ofNat 39

def doubleQuote : Char := Char.ofNat 34

def backslash : Char := Char.ofNat 92

def hexadecimal (width n : Nat) : List Char :=
  let digits := Nat.toDigits 16 n
  List.replicate (width - digits.length) '0' ++ digits

/-- Two, four or eight digits, the fewest that the character fits in. -/
def escaped (c : Char) : List Char :=
  let code := c.toNat
  if code < 0x100 then backslash :: 'x' :: hexadecimal 2 code
  else if code < 0x10000 then backslash :: 'u' :: hexadecimal 4 code
  else backslash :: 'U' :: hexadecimal 8 code

def quoteChar (mark c : Char) : List Char :=
  if c = mark ∨ c = backslash then [backslash, c]
  else if c = '\n' then [backslash, 'n']
  else if c = '\t' then [backslash, 't']
  else if c = '\r' then [backslash, 'r']
  else if isPrintable c then [c]
  else escaped c

def quoteMark (chars : List Char) : Char :=
  if apostrophe ∈ chars ∧ doubleQuote ∉ chars then doubleQuote else apostrophe

def quoted (text : String) : String :=
  let chars := text.toList
  let mark := quoteMark chars
  String.ofList (mark :: (chars.flatMap (quoteChar mark) ++ [mark]))

end SearchRequest.Text
