import SearchRequest.Settings.Source

/-!
The settings that are shared: loaded once from environment and file, and kept until they are
reloaded. Each load that succeeds is a new generation, so a caller can tell a reload from a
second look.
-/

namespace SearchRequest

structure Loaded where
  generation : Nat
  settings : Settings
deriving DecidableEq, Repr

structure SettingsStore where
  library : SettingsLibrary
  env : Variables
  files : FileSystem
  kept : Option Loaded
  next : Nat

namespace SettingsStore

def fileVariable : String := "ELASTIC_DEVTOOLS_CONFIG_FILE"

def usualFile : String := "conf.yaml"

def configFile (env : Variables) : Path := Path.ofText ((env.get? fileVariable).getD usualFile)

def initial (library : SettingsLibrary) (env : Variables) (files : FileSystem) : SettingsStore :=
  ⟨library, env, files, none, 0⟩

def readFile (s : SettingsStore) : Except Failure Object := do
  let path ← s.library.expanded s.env (configFile s.env)
  match ← s.files path with
  | .file content => s.library.yaml content
  | .nothing | .directory | .device => .ok []

def named (library : SettingsLibrary) (entries : Object) : Object :=
  Settings.fields.filterMap fun field => (library.entryFor entries field).map (field, ·)

/-- Settings of the caller's own, which are not kept. The file is read before any source is
asked. -/
def create (s : SettingsStore) (given : Object) : Except Failure Settings := do
  let handed ← s.library.handed Settings.config s.files s.env given
  let file ← s.readFile
  let sources := Settings.sources handed (named s.library file)
  let values ← s.library.merged Settings.config given sources
  Sources.load ⟨s.library, s.env, values⟩

def get (s : SettingsStore) : Except Failure Loaded × SettingsStore :=
  match s.kept with
  | some loaded => (.ok loaded, s)
  | none => match s.create [] with
      -- A load that fails leaves nothing kept, and the next look loads again.
      | .error failure => (.error failure, s)
      | .ok settings =>
          let loaded : Loaded := ⟨s.next, settings⟩
          (.ok loaded, { s with kept := some loaded, next := s.next + 1 })

/-- Forgets the settings that are kept, also when the load fails. -/
def reload (s : SettingsStore) : Except Failure Loaded × SettingsStore :=
  get { s with kept := none }

end SettingsStore

end SearchRequest
