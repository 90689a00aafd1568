import SearchRequest.Json.Basic
import SearchRequest.Text.Quoted

/-!
The text of a value inside a message.
-/

namespace SearchRequest.Json

mutual

def literal : Json → String
  | .null => "None"
  | .bool value => if value then "True" else "False"
  | .int value => toString value
  | .float value => value.text
  | .str value => Text.quoted value
  | .arr items => "[" ++ ", ".intercalate (itemLiterals items) ++ "]"
  | .obj entries => "\x7b" ++ ", ".intercalate (entryLiterals entries) ++ "\x7d"

def itemLiterals : List Json → List String
  | [] => []
  | item :: rest => literal item :: itemLiterals rest

def entryLiterals : List (String × Json) → List String
  | [] => []
  | (key, value) :: rest => (Text.quoted key ++ ": " ++ literal value) :: entryLiterals rest

end

/-- The text of a value where a plain text is put in as it stands. -/
def displayed : Json → String
  | .str value => value
  | value => value.literal

end SearchRequest.Json
