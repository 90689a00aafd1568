/-!
Blank characters: the white space of Unicode, with the four information separators of ASCII.
A text is blank when it has no other character. Zero width characters are not blank.
-/

namespace SearchRequest.Text

/-- First and last character of each run of white space. -/
def whiteRanges : List (Nat × Nat) :=
  [(0x09, 0x0d), (0x20, 0x20), (0x85, 0x85), (0xa0, 0xa0), (0x1680, 0x1680), (0x2000, 0x200a),
   (0x2028, 0x2029), (0x202f, 0x202f), (0x205f, 0x205f), (0x3000, 0x3000)]

def separatorRange : Nat × Nat := (0x1c, 0x1f)

def within (ranges : List (Nat × Nat)) (c : Char) : Bool :=
  ranges.any fun range => range.1 ≤ c.toNat && c.toNat ≤ range.2

def isWhite (c : Char) : Bool := within whiteRanges c

def isBlankChar (c : Char) : Bool := within (separatorRange :: whiteRanges) c

def isBlank (text : String) : Bool := text.toList.all isBlankChar

def trimmed (blank : Char → Bool) (chars : List Char) : List Char :=
  ((chars.dropWhile blank).reverse.dropWhile blank).reverse

def trim (text : String) : String := String.ofList (trimmed isBlankChar text.toList)

/-- The pieces between separators; there is one more of them than separators. -/
def pieces (separator : Char) : List Char → List (List Char)
  | [] => [[]]
  | c :: rest =>
      if c = separator then [] :: pieces separator rest
      else match pieces separator rest with
        | [] => [[c]]
        | first :: others => (c :: first) :: others

end SearchRequest.Text
