import SearchRequest.Json.Reader

/-!
Writing JSON text. Quotes, backslashes and control characters are escaped, all else is written
as it is. Numbers that no numeral spells have their usual names. A space stands behind every
comma and colon.
-/

namespace SearchRequest.Json.Writer

def hexDigits (unit : Nat) : List Char :=
  let digits := Nat.toDigits 16 unit
  List.replicate (4 - digits.length) '0' ++ digits

def escapeLetters : List (Char × Char) :=
  [(Char.ofNat 8, 'b'), ('\t', 't'), ('\n', 'n'), (Char.ofNat 12, 'f'), ('\r', 'r')]

def escaped (c : Char) : List Char :=
  if c == Reader.quote || c == Reader.backslash then [Reader.backslash, c]
  else match escapeLetters.lookup c with
    | some letter => [Reader.backslash, letter]
    | none =>
        if c.toNat < 0x20 then Reader.backslash :: 'u' :: hexDigits c.toNat else [c]

def quoted (text : String) : String :=
  let inner := text.toList.flatMap escaped
  String.ofList (Reader.quote :: inner ++ [Reader.quote])

mutual

def write (before : String) : Json → String
  | .null => before ++ "null"
  | .bool value => before ++ (if value then "true" else "false")
  | .int value => before ++ toString value
  | .float value => before ++ numberText value
  | .str value => before ++ quoted value
  | .arr items => writeItems (before.push '[') items true ++ "]"
  | .obj entries => writeEntries (before.push '\x7b') entries true ++ "\x7d"

def writeItems (before : String) : List Json → Bool → String
  | [], _ => before
  | item :: rest, first =>
      writeItems (write (if first then before else before ++ ", ") item) rest false

def writeEntries (before : String) : List (String × Json) → Bool → String
  | [], _ => before
  | (key, value) :: rest, first =>
      let label := quoted key
      let started := (if first then before else before ++ ", ") ++ label
      writeEntries (write (started ++ ": ") value) rest false

end

end SearchRequest.Json.Writer

namespace SearchRequest.Json

def toText (value : Json) : String := Writer.write "" value

end SearchRequest.Json
