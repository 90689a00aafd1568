import SearchRequest.Failure
import SearchRequest.Json.Writer
import SearchRequest.Text.Folded

/-!
Settings files as the installed library reads them. They are written as JSON and read as YAML, which
takes some of it another way: a number with an exponent and no point is a text, as is one that no
numeral spells; line breaks in a text are folded; and some characters, keys and depths cannot be
read at all. What is wrong with a file is found in the order of its characters, but characters are
looked at in blocks.
-/

namespace SearchRequest.SettingsFile

/-- A key is written with at most this many characters, and on one line. -/
def keyLimit : Nat := 1022

structure Stop where
  fault : FileFault
  place : Nat
deriving DecidableEq, Repr

def writtenLength (value : Json) : Nat := value.toText.length

/-- A text that is written from a place on. Three characters separate documents, and a fourth has
to be looked at. -/
def readText (place : Nat) (text : String) : Except Stop String :=
  (Text.folded text).mapError fun rest =>
    ⟨.separator, place + writtenLength (.str text) - writtenLength (.str rest) + 4⟩

def readNumber (number : Decimal) : Json :=
  let spelled := Json.numberText number
  let isNumeral := match number with
    | .finite .. => !spelled.toList.contains 'e' || spelled.toList.contains '.'
    | _ => false
  if isNumeral then .float number else .str spelled

def valuePlace (place : Nat) (key : String) : Nat := place + writtenLength (.str key) + 2

def checkKey (place : Nat) (key : String) : Except Stop Unit := do
  let _ ← readText place key
  if key.toList.any Text.isBreak || keyLimit + 2 < writtenLength (.str key) then
    .error ⟨.key, valuePlace place key - 1⟩
  else .ok ()

mutual

def read (depthLimit depth place : Nat) : Json → Except Stop Json
  | .float number => .ok (readNumber number)
  | .str text => (readText place text).map .str
  | .arr items =>
      if depthLimit ≤ depth then .error ⟨.depth, place⟩
      else (readItems depthLimit (depth + 1) (place + 1) items).map .arr
  | .obj entries =>
      if depthLimit ≤ depth then .error ⟨.depth, place⟩
      else (readEntries depthLimit (depth + 1) (place + 1) entries).map .obj
  | value => .ok value

def readItems (depthLimit depth place : Nat) : List Json → Except Stop (List Json)
  | [] => .ok []
  | item :: rest => do
      let first ← read depthLimit depth place item
      -- Behind an item stand a comma and a space.
      let others ← readItems depthLimit depth (place + writtenLength item + 2) rest
      .ok (first :: others)

def readEntries (depthLimit depth place : Nat) :
    List (String × Json) → Except Stop (List (String × Json))
  | [] => .ok []
  | (key, value) :: rest => do
      checkKey place key
      let begun := valuePlace place key
      let first ← read depthLimit depth begun value
      let others ← readEntries depthLimit depth (begun + writtenLength value + 2) rest
      .ok ((key, first) :: others)

end

/-- Characters are looked at in blocks of this length, the first two of which are one. -/
def blockLength : Nat := 4096

def blockStart (place : Nat) : Nat :=
  if place < 2 * blockLength then 0 else place / blockLength * blockLength

/-- What is read of a file. A control character is found with the first character of its block
that is looked at. -/
def contents (depthLimit : Nat) (written : Json) : Except FileFault Json :=
  match (written.toText.toList.findIdx? Text.isControl).map blockStart,
    read depthLimit 0 0 written with
  | none, found => found.mapError Stop.fault
  | some _, .ok _ => .error .character
  | some start, .error stop => .error (if stop.place < start then stop.fault else .character)

def hasTextKeys (table : Json.Table) : Bool := table.all fun entry => entry.1.isText

/-- What a file sets, by the names that stand in it. Only files that are written as JSON are
read. -/
def entries (depthLimit : Nat) (content : String) : Except Failure Object :=
  match Json.ofText content with
  | none => .error .wrongContent
  | some written => do
      let value ← (contents depthLimit written).mapError .file
      let table ← value.orEmpty.asTable
      if hasTextKeys table then .ok (Json.ofTable table) else .error .noOperation

end SearchRequest.SettingsFile
