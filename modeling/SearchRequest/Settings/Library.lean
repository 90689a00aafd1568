import SearchRequest.Json.Basic
import SearchRequest.Settings.Path

/-!
What settings are read with: a library that collects them from several sources and converts them to
the types of their fields. It is not part of the program, which is written against what stands here.
-/

namespace SearchRequest

structure SettingsConfig where
  fields : List String
  /-- What stands before the name of a field in the name of its variable. -/
  lead : String
  exactCase : Bool
deriving DecidableEq, Repr

/-- What a source sets, by the names of the fields. It is asked only when settings are made of
it. -/
abbrev Source := Except Failure Object

/-- The sources that the library has by itself. -/
structure Handed where
  given : Source
  env : Source
  dotenv : Source
  secrets : Source

structure SettingsLibrary where
  /-- Which of the entries counts for a field, where names may differ in the case of letters. -/
  entryFor : Object → String → Option Json
  variableFor : Variables → String → Option String
  handed : SettingsConfig → FileSystem → Variables → Object → Except Failure Handed
  /-- The values that stand, from sources of which an earlier one counts before a later one. -/
  merged : SettingsConfig → Object → List Source → Except Failure Object
  /-- The path with a home in place of a tilde. -/
  expanded : Variables → Path → Except Failure Path
  /-- What a file's text sets, by the names that stand in it. -/
  yaml : String → Except Failure Object
  text : Json → Except SettingFault String
  optionalText : Json → Except SettingFault (Option String)
  flag : Json → Except SettingFault Bool
  number : Json → Except SettingFault Decimal
  whole : Json → Except SettingFault Int
  literal : List String → Json → Except SettingFault String
  member : List String → Json → Except SettingFault String

end SearchRequest
