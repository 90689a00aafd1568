import SearchRequest.Text.Blank

/-!
Quoted text that runs over several lines. A line break between two words is read as a space, and
one that is followed by more of them is left out; the spaces around a break do not count. The
separators of lines and of paragraphs are breaks that stay in the text.
-/

namespace SearchRequest.Text

def nextLine : Char := Char.ofNat 0x85

def breakRanges : List (Nat × Nat) := [(0x85, 0x85), (0x2028, 0x2029)]

def isBreak (c : Char) : Bool := within breakRanges c

def controlRanges : List (Nat × Nat) := [(0x7f, 0x84), (0x86, 0x9f), (0xfffe, 0xffff)]

def isControl (c : Char) : Bool := within controlRanges c

def readBreak (c : Char) : Char := if c = nextLine then '\n' else c

def readBreaks (first : Char) (others : List Char) : List Char :=
  if first ≠ nextLine then first :: others.map readBreak
  else if others.isEmpty then [' ']
  else others.map readBreak

def separatesDocuments : List Char → Bool
  | a :: b :: c :: d :: _ =>
      (a == '-' || a == '.') && b == a && c == a && (d == ' ' || isBreak d)
  | _ => false

/-- What was read of a text and not yet written: spaces, or breaks with the last one first. -/
inductive Held
  | spaces (count : Nat)
  | breaks (first : Char) (others : List Char)
deriving DecidableEq, Repr

namespace Held

def text : Held → List Char
  | .spaces count => List.replicate count ' '
  | .breaks first others => readBreaks first others.reverse

/-- A space counts unless it stands beside a break. -/
def space : Held → Held
  | .spaces count => .spaces (count + 1)
  | held => held

def lineBreak (c : Char) : Held → Held
  | .spaces _ => .breaks c []
  | .breaks first others => .breaks first (c :: others)

end Held

/-- The text that is read; when a line begins like a new document, what is left from there on. -/
def foldedFrom (held : Held) : List Char → Except (List Char) (List Char)
  | [] => .ok held.text
  | c :: rest =>
      if c = ' ' then foldedFrom held.space rest
      else if isBreak c then
        if separatesDocuments rest then .error rest else foldedFrom (held.lineBreak c) rest
      else (foldedFrom (.spaces 0) rest).map fun read => held.text ++ c :: read

def folded (text : String) : Except String String :=
  ((foldedFrom (.spaces 0) text.toList).map String.ofList).mapError String.ofList

end SearchRequest.Text
