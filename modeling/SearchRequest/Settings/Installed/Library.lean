import SearchRequest.Settings.Installed.CommandLine
import SearchRequest.Settings.Installed.Conversion
import SearchRequest.Settings.Installed.File
import SearchRequest.Settings.Installed.Machine

/-!
The library that is installed, on a machine. Of its own arguments it takes those that say how the
variables are read, which further files and directories are looked at, and the command line.
-/

namespace SearchRequest.SettingsLibrary

def firstNamed? {α : Type} (entries : List (String × α)) (name : String) : Option α :=
  (entries.find? fun entry => Text.lowered entry.1 == name).map (·.2)

def listed : Json → Except Failure (List Json)
  | .null => .ok []
  | .str text => .ok [.str text]
  | value => value.asElements

def pathOf (m : Machine) (env : Variables) : Json → Except Failure Path
  | .str text => m.expanded env (Path.ofText text)
  | _ => .error .wrongKind

/-- Looks at each of the files that may set further variables, and finds none. -/
def checkVariableFiles (m : Machine) (files : FileSystem) (env : Variables) (value : Json) :
    Except Failure Unit := do
  let items ← listed value
  items.forM fun item => do
    let path ← pathOf m env item
    let _ ← files path
    .ok ()

/-- What the directories set that may hold a file for each secret, which is nothing. Whatever else
is found in their places is refused. -/
def secrets (m : Machine) (files : FileSystem) (env : Variables) (value : Json) : Source := do
  let items ← listed value
  let paths ← items.mapM (pathOf m env)
  let places ← paths.mapM files
  if places.contains .device then .error .source else .ok []

def entriesFor (config : SettingsConfig) (entries : Object) : Object :=
  config.fields.filterMap fun field => (firstNamed? entries field).map (field, ·)

def handedOn (m : Machine) (config : SettingsConfig) (files : FileSystem) (env : Variables)
    (given : Object) : Except Failure Handed := do
  let options ← SourceOptions.ofArguments config given
  checkVariableFiles m files env (given.field "_env_file")
  .ok ⟨.ok (entriesFor config given), options.source config env, .ok [],
    secrets m files env (given.field "_secrets_dir")⟩

/-- The command line counts before all sources. -/
def mergedFrom (config : SettingsConfig) (given : Object) (sources : List Source) :
    Except Failure Object := do
  let line ← CommandLine.ofJson config.fields (given.field "_cli_parse_args")
  let read ← sources.mapM id
  .ok (line ++ read.flatten)

def installed (m : Machine) : SettingsLibrary where
  entryFor := firstNamed?
  variableFor := fun env => firstNamed? env.reverse
  handed := handedOn m
  merged := mergedFrom
  expanded := m.expanded
  yaml := SettingsFile.entries m.depthLimit
  text := Conversion.text
  optionalText := Conversion.optionalText
  flag := Conversion.flag
  number := Conversion.number
  whole := Conversion.whole m.wholeLength
  literal := Conversion.choice .literal
  member := Conversion.choice .member

end SearchRequest.SettingsLibrary
