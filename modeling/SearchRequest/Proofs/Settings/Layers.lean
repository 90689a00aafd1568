import SearchRequest.Proofs.Json.Merge
import SearchRequest.Proofs.Settings.Fields
import SearchRequest.Proofs.Settings.Installed

/-!
Settings in layers. Each field is taken from the first layer that sets it: the arguments, the
environment, the file; else it falls back. Settings depend on the values that are taken and on
nothing else: neither on what a layer below has for a field, nor on names that are no field's.
-/

namespace SearchRequest

structure Layers where
  given : Object
  env : Variables
  file : Object

theorem Sources.detected_eq (env : Variables) :
    detected env = (((env.get? "ELASTIC_DEVTOOLS_ENV").or (env.get? "ENVIRONMENT")).bind
      Environment.named?).getD .development := by
  rw [detected]
  split
  case h_1 name told => rw [told, Option.bind_some]
  case h_2 silent => rw [silent, Option.bind_none, Option.getD_none]

namespace Layers

/-- The value that counts for a field is that of the first layer that has its name. -/
inductive Sets (l : Layers) (f : SettingField) : Json → Prop
  | given {value : Json} (only : IsOnly l.given f.name (f.name, value)) : Sets l f value
  | env {key text : String} (silent : IsSilent l.given f.name)
      (only : IsOnly l.env ("elastic_devtools_" ++ f.name) (key, text)) : Sets l f (.str text)
  | file {value : Json} (silent : IsSilent l.given f.name)
      (unset : IsSilent l.env ("elastic_devtools_" ++ f.name))
      (only : IsOnly l.file f.name (f.name, value)) : Sets l f value

structure IsUnset (l : Layers) (f : SettingField) : Prop where
  given : IsSilent l.given f.name
  env : IsSilent l.env ("elastic_devtools_" ++ f.name)
  file : IsSilent l.file f.name

def isKnownEntry (name : String) : Bool := SettingField.all.any fun f => Text.lowered name == f.name

def isKnownVariable (name : String) : Bool :=
  (SettingField.all.any fun f => Text.lowered name == "elastic_devtools_" ++ f.name) ||
    name == "ELASTIC_DEVTOOLS_ENV" || name == "ENVIRONMENT"

/-- The layers without the names that are no field's and do not tell the environment. -/
def known (l : Layers) : Layers :=
  ⟨l.given.filter fun entry => isKnownEntry entry.1,
    l.env.filter fun entry => isKnownVariable entry.1,
    l.file.filter fun entry => isKnownEntry entry.1⟩

section Library

variable (library : SettingsLibrary)

def chosen? (l : Layers) (f : SettingField) : Option Json :=
  ((library.entryFor l.given f.name).or
    ((library.variableFor l.env ("elastic_devtools_" ++ f.name)).map .str)).or
      (library.entryFor l.file f.name)

def taken (l : Layers) (f : SettingField) : Except SettingFault Json :=
  match l.chosen? library f with
  | some value => f.read library value
  | none => .ok (f.fallback l.env)

end Library

section Lawful

variable {library : SettingsLibrary} (lawful : library.Collects) (l : Layers) (f : SettingField)

include lawful

theorem chosen?_of_sets {value : Json} (sets : l.Sets f value) :
    l.chosen? library f = some value := by
  rw [chosen?]
  cases sets with
  | given only =>
    rw [lawful.entryFor.eq_some only f.lowered_name rfl, Option.some_or, Option.some_or]
  | env silent only =>
    rw [lawful.entryFor.eq_none silent,
      lawful.variableFor.eq_some only f.lowered_variable only.named, Option.none_or,
      Option.map_some, Option.some_or]
  | file silent unset only =>
    rw [lawful.entryFor.eq_none silent, lawful.variableFor.eq_none unset,
      lawful.entryFor.eq_some only f.lowered_name rfl, Option.none_or, Option.map_none,
      Option.none_or]

theorem chosen?_of_unset (unset : l.IsUnset f) : l.chosen? library f = none := by
  rw [chosen?, lawful.entryFor.eq_none unset.given, lawful.variableFor.eq_none unset.env,
    lawful.entryFor.eq_none unset.file]
  rfl

theorem chosen?_known : l.known.chosen? library f = l.chosen? library f := by
  have entries (o : Object) :
      library.entryFor (o.filter fun entry => isKnownEntry entry.1) f.name =
        library.entryFor o f.name :=
    lawful.entryFor.filter fun entry named =>
      List.any_eq_true.mpr ⟨f, f.mem_all, beq_iff_eq.mpr named⟩
  have told :
      library.variableFor (l.env.filter fun entry => isKnownVariable entry.1)
          ("elastic_devtools_" ++ f.name) =
        library.variableFor l.env ("elastic_devtools_" ++ f.name) := by
    refine lawful.variableFor.filter fun entry named => ?_
    have listed : (SettingField.all.any fun f =>
        Text.lowered entry.1 == "elastic_devtools_" ++ f.name) = true :=
      List.any_eq_true.mpr ⟨f, f.mem_all, beq_iff_eq.mpr named⟩
    rw [isKnownVariable, listed, Bool.true_or, Bool.true_or]
  rw [chosen?, chosen?, known, entries, entries, told]

end Lawful

theorem detected_known (env : Variables) :
    Sources.detected (env.filter fun entry => isKnownVariable entry.1) = Sources.detected env := by
  have kept {name : String} (telling : isKnownVariable name = true) :
      Variables.get? (env.filter fun entry => isKnownVariable entry.1) name = env.get? name := by
    induction env with
    | nil => rfl
    | cons entry rest ih =>
      obtain ⟨key, value⟩ := entry
      cases known : isKnownVariable key with
      | true =>
        rw [List.filter_cons_of_pos (by exact known), Variables.get?, Variables.get?,
          List.lookup_cons, List.lookup_cons]
        cases name == key with
        | true => rfl
        | false => exact ih
      | false =>
        have other : (name == key) = false := by
          rw [beq_eq_false_iff_ne]
          rintro rfl
          rw [telling] at known
          cases known
        rw [List.filter_cons_of_neg (by simp [known]), Variables.get?, Variables.get?,
          List.lookup_cons, other]
        exact ih
  have first : isKnownVariable "ELASTIC_DEVTOOLS_ENV" = true := by
    simp only [isKnownVariable, beq_self_eq_true, Bool.or_true, Bool.true_or]
  have second : isKnownVariable "ENVIRONMENT" = true := by
    simp only [isKnownVariable, beq_self_eq_true, Bool.or_true]
  rw [Sources.detected, Sources.detected, kept first, kept second]

end Layers

namespace Sources

theorem read_congr {α : Type} {s t : Sources} {field : String}
    {convert : Json → Except SettingFault α} {a b : α}
    (chosen : s.values.get? field = t.values.get? field)
    (falling : s.values.get? field = none → a = b) :
    s.read field convert a = t.read field convert b := by
  rw [read, read, ← chosen]
  cases found : s.values.get? field with
  | none => rw [falling found]
  | some value => rfl

/-- Readings depend on the values that stand, and on the variables that tell the environment when
none stands for it. -/
theorem readings_congr (library : SettingsLibrary) {env told : Variables} {values others : Object}
    (chosen : ∀ f : SettingField, values.get? f.name = others.get? f.name)
    (falling : values.get? "environment" = none → detected env = detected told) :
    (Sources.mk library env values).readings = (Sources.mk library told others).readings := by
  simp only [readings, Readings.mk.injEq]
  refine ⟨?_, ?_, read_congr (chosen .environment) falling, ?_, ?_, ?_, ?_, ?_, ?_, ?_, ?_, ?_, ?_⟩
  · exact read_congr (chosen .apiKey) fun _ => rfl
  · exact read_congr (chosen .defaultPageSize) fun _ => rfl
  · exact read_congr (chosen .hosts) fun _ => rfl
  · exact read_congr (chosen .indexPrefix) fun _ => rfl
  · exact read_congr (chosen .logFormat) fun _ => rfl
  · exact read_congr (chosen .logLevel) fun _ => rfl
  · exact read_congr (chosen .maxRetries) fun _ => rfl
  · exact read_congr (chosen .password) fun _ => rfl
  · exact read_congr (chosen .requestTimeout) fun _ => rfl
  · exact read_congr (chosen .retryOnTimeout) fun _ => rfl
  · exact read_congr (chosen .username) fun _ => rfl
  · exact read_congr (chosen .verifyCerts) fun _ => rfl

namespace Readings

def shown (r : Readings) : SettingField → Except SettingFault Json
  | .apiKey => r.apiKey.map .ofText?
  | .defaultPageSize => r.defaultPageSize.map fun count : Nat => .int count
  | .environment => r.environment.map fun e => .str e.name
  | .hosts => r.hosts.map .str
  | .indexPrefix => r.indexPrefix.map .str
  | .logFormat => r.logFormat.map fun e => .str e.name
  | .logLevel => r.logLevel.map fun e => .str e.name
  | .maxRetries => r.maxRetries.map fun count : Nat => .int count
  | .password => r.password.map .ofText?
  | .requestTimeout => r.requestTimeout.map .float
  | .retryOnTimeout => r.retryOnTimeout.map .bool
  | .username => r.username.map .ofText?
  | .verifyCerts => r.verifyCerts.map .bool

theorem fault?_map {α β : Type} (field : String) (reading : Except SettingFault α) (f : α → β) :
    fault? field (reading.map f) = fault? field reading := by
  cases reading <;> rfl

theorem faults_eq (r : Readings) :
    r.faults = SettingField.all.filterMap fun f => fault? f.name (r.shown f) := by
  change _ = SettingField.all.filterMap (id ∘ fun f => fault? f.name (r.shown f))
  rw [← List.filterMap_map, faults]
  simp only [SettingField.all, List.map_cons, List.map_nil, shown, fault?_map, SettingField.name]

theorem fault?_eq_some {α : Type} {field name : String} {reading : Except SettingFault α}
    {fault : SettingFault} :
    fault? field reading = some (name, fault) ↔ field = name ∧ reading = .error fault := by
  cases reading with
  | ok value => exact iff_of_false nofun fun ⟨_, failed⟩ => nomatch failed
  | error found => simp only [fault?, Option.some.injEq, Prod.mk.injEq, Except.error.injEq]

theorem mem_faults {r : Readings} {name : String} {fault : SettingFault} :
    (name, fault) ∈ r.faults ↔ ∃ f : SettingField, f.name = name ∧ r.shown f = .error fault := by
  simp only [faults_eq, List.mem_filterMap, fault?_eq_some, SettingField.mem_all, true_and]

theorem shown_of_settings {r : Readings} {s : Settings} (read : r.settings = .ok s)
    (f : SettingField) : r.shown f = .ok (f.of s) := by
  unfold Readings.settings at read
  simp only [bind_eq_ok] at read
  obtain ⟨_, environment, _, logLevel, _, logFormat, _, hosts, _, username, _, password, _, apiKey,
    _, verifyCerts, _, requestTimeout, _, maxRetries, _, retryOnTimeout, _, indexPrefix, _,
    defaultPageSize, same⟩ := read
  cases same
  cases f
  all_goals
    rw [shown]
    simp only [*]
    rfl

theorem succeeds_settings {r : Readings} :
    Succeeds r.settings ↔ ∀ f, Succeeds (r.shown f) := by
  constructor
  · rintro ⟨s, read⟩ f
    exact ⟨f.of s, shown_of_settings read f⟩
  · intro each
    obtain ⟨_, environment⟩ := succeeds_map.mp (each .environment)
    obtain ⟨_, logLevel⟩ := succeeds_map.mp (each .logLevel)
    obtain ⟨_, logFormat⟩ := succeeds_map.mp (each .logFormat)
    obtain ⟨_, hosts⟩ := succeeds_map.mp (each .hosts)
    obtain ⟨_, username⟩ := succeeds_map.mp (each .username)
    obtain ⟨_, password⟩ := succeeds_map.mp (each .password)
    obtain ⟨_, apiKey⟩ := succeeds_map.mp (each .apiKey)
    obtain ⟨_, verifyCerts⟩ := succeeds_map.mp (each .verifyCerts)
    obtain ⟨_, requestTimeout⟩ := succeeds_map.mp (each .requestTimeout)
    obtain ⟨_, maxRetries⟩ := succeeds_map.mp (each .maxRetries)
    obtain ⟨_, retryOnTimeout⟩ := succeeds_map.mp (each .retryOnTimeout)
    obtain ⟨_, indexPrefix⟩ := succeeds_map.mp (each .indexPrefix)
    obtain ⟨_, defaultPageSize⟩ := succeeds_map.mp (each .defaultPageSize)
    simp only [settings, environment, logLevel, logFormat, hosts, username, password, apiKey,
      verifyCerts, requestTimeout, maxRetries, retryOnTimeout, indexPrefix, defaultPageSize,
      bind_ok, succeeds_ok]

end Readings

theorem read_map {α β : Type} (s : Sources) (field : String)
    (convert : Json → Except SettingFault α) (fallback : α) (f : α → β) :
    (s.read field convert fallback).map f =
      match s.values.get? field with
      | some value => (convert value).map f
      | none => .ok (f fallback) := by
  rw [read]
  cases s.values.get? field <;> rfl

theorem shown_readings {library : SettingsLibrary} {l : Layers} {values : Object}
    (stands : ∀ f : SettingField, values.get? f.name = l.chosen? library f) (f : SettingField) :
    (Sources.mk library l.env values).readings.shown f = l.taken library f := by
  rw [Layers.taken, ← stands]
  cases f <;> exact read_map ..

theorem load_eq_ok {s : Sources} {settings : Settings} :
    s.load = .ok settings ↔ ∃ unsettled, s.readings.settings = .ok unsettled ∧
      unsettled.settled = settings := by
  rw [load]
  cases s.readings.settings with
  | ok unsettled => simp
  | error fault => simp

theorem succeeds_load {s : Sources} : Succeeds s.load ↔ Succeeds s.readings.settings := by
  rw [load]
  cases s.readings.settings with
  | ok unsettled => simp
  | error fault => simp

theorem load_eq_error {s : Sources} {failure : Failure} (failed : s.load = .error failure) :
    failure = .settings s.readings.faults := by
  rw [load] at failed
  cases read : s.readings.settings with
  | ok unsettled =>
    rw [read] at failed
    cases failed
  | error fault =>
    rw [read] at failed
    cases failed
    rfl

end Sources

namespace Layers

/-- What comes of layers: settings in which each field is what the value that counts for it means,
or what it falls back to, unless a field refuses its value; then a report of the fields that do.
What is logged in production is written as JSON, whatever layer asks for something else. -/
structure Settle (library : SettingsLibrary) (l : Layers) (made : Except Failure Settings) :
    Prop where
  sets : ∀ f value, l.Sets f value → l.chosen? library f = some value
  unset : ∀ f, l.IsUnset f → l.chosen? library f = none
  accepts : (∀ f value, l.chosen? library f = some value → ∃ shown, f.Means value shown) →
    Succeeds made
  means : ∀ s, made = .ok s → ∀ f value shown, l.chosen? library f = some value →
    f.Means value shown → f ≠ .logFormat ∨ s.environment ≠ .production → f.of s = shown
  fallback : ∀ s, made = .ok s → ∀ f, l.chosen? library f = none →
    f ≠ .logFormat ∨ s.environment ≠ .production → f.of s = f.fallback l.env
  production : ∀ s, made = .ok s → s.environment = .production → s.logFormat = .json
  detected : ∀ s, made = .ok s → l.chosen? library .environment = none →
    s.environment = (((l.env.get? "ELASTIC_DEVTOOLS_ENV").or (l.env.get? "ENVIRONMENT")).bind
      Environment.named?).getD .development
  refuses : ∀ f value, l.chosen? library f = some value → f.Refuses value →
    ∃ faults fault, made = .error (.settings faults) ∧ (f.name, fault) ∈ faults
  accepted : Succeeds made ↔ ∀ f, Succeeds (l.taken library f)
  taken : ∀ s, made = .ok s → ∀ f, f ≠ .logFormat ∨ s.environment ≠ .production →
    l.taken library f = .ok (f.of s)
  refused : ∀ failure, made = .error failure → ∃ faults, failure = .settings faults ∧
    ∀ name fault, (name, fault) ∈ faults ↔ ∃ f, f.name = name ∧ l.taken library f = .error fault

section Settling

variable {library : SettingsLibrary} {l : Layers}

theorem taken_of_chosen {f : SettingField} {value : Json}
    (chosen : l.chosen? library f = some value) :
    l.taken library f = f.read library value := by
  rw [taken, chosen]

theorem taken_of_unset {f : SettingField} (unset : l.chosen? library f = none) :
    l.taken library f = .ok (f.fallback l.env) := by
  rw [taken, unset]

theorem settle_load (lawful : library.Lawful) {values : Object}
    (stands : ∀ f : SettingField, values.get? f.name = l.chosen? library f) :
    l.Settle library (Sources.load ⟨library, l.env, values⟩) := by
  let sources : Sources := ⟨library, l.env, values⟩
  have shown := Sources.shown_readings stands
  -- The log format is settled after all fields are read, so the readings tell of settings before
  -- that.
  have unsettled {s : Settings} (made : sources.load = .ok s) :
      ∃ t : Settings, t.settled = s ∧ ∀ f, l.taken library f = .ok (f.of t) := by
    obtain ⟨t, read, same⟩ := Sources.load_eq_ok.mp made
    exact ⟨t, same, fun f => (shown f).symm.trans (Sources.Readings.shown_of_settings read f)⟩
  have accepted : Succeeds sources.load ↔ ∀ f, Succeeds (l.taken library f) := by
    rw [Sources.succeeds_load, Sources.Readings.succeeds_settings]
    exact forall_congr' fun f => by rw [shown f]
  have taken {s : Settings} (made : sources.load = .ok s) {f : SettingField}
      (kept : f ≠ .logFormat ∨ s.environment ≠ .production) :
      l.taken library f = .ok (f.of s) := by
    obtain ⟨t, rfl, each⟩ := unsettled made
    rw [each, SettingField.of_settled kept]
  have refused {failure : Failure} (failed : sources.load = .error failure) :
      ∃ faults, failure = .settings faults ∧
        ∀ name fault, (name, fault) ∈ faults ↔
          ∃ f, f.name = name ∧ l.taken library f = .error fault :=
    ⟨_, Sources.load_eq_error failed, fun name fault => by
      rw [Sources.Readings.mem_faults]
      exact exists_congr fun f => by rw [shown f]⟩
  constructor
  case sets => exact fun f value => chosen?_of_sets lawful.toCollects l f
  case unset => exact chosen?_of_unset lawful.toCollects l
  case accepts =>
    refine fun meaning => accepted.mpr fun f => ?_
    cases chosen : l.chosen? library f with
    | none => exact ⟨_, taken_of_unset chosen⟩
    | some value =>
      obtain ⟨shown, means⟩ := meaning f value chosen
      exact ⟨shown, (taken_of_chosen chosen).trans (f.read_of_means lawful.toConverts means)⟩
  case means =>
    intro s made f value shown chosen means kept
    have read := (taken_of_chosen chosen).trans (f.read_of_means lawful.toConverts means)
    exact Except.ok.inj ((taken made kept).symm.trans read)
  case fallback =>
    intro s made f unset kept
    exact Except.ok.inj ((taken made kept).symm.trans (taken_of_unset unset))
  case production =>
    intro s made
    obtain ⟨t, rfl, -⟩ := unsettled made
    exact Settings.logFormat_settled
  case detected =>
    intro s made silent
    have named := (taken made (f := .environment) (.inl nofun)).symm.trans (taken_of_unset silent)
    rw [← Sources.detected_eq]
    exact Environment.name_injective (Json.str.inj (Except.ok.inj named))
  case refuses =>
    intro f value chosen refuses
    have failed : ¬ Succeeds (l.taken library f) := by
      rw [taken_of_chosen chosen]
      exact f.not_succeeds_of_refuses lawful.toConverts refuses
    cases came : l.taken library f with
    | ok shown => exact absurd ⟨shown, came⟩ failed
    | error fault =>
      cases made : sources.load with
      | ok s => exact absurd (accepted.mp ⟨s, made⟩ f) failed
      | error failure =>
        obtain ⟨faults, rfl, reported⟩ := refused made
        exact ⟨faults, fault, rfl, (reported f.name fault).mpr ⟨f, rfl, came⟩⟩
  case accepted => exact accepted
  case taken => exact fun s made f => taken made
  case refused => exact fun failure => refused

end Settling

end Layers

namespace SettingsStore

/-- The settings file, which the variables name or which is the usual one, has these entries; where
there is no such file there are none. -/
def HasFile (store : SettingsStore) (entries : Object) : Prop :=
  ∃ path place,
    store.library.expanded store.env
        (Path.ofText ((store.env.get? "ELASTIC_DEVTOOLS_CONFIG_FILE").getD "conf.yaml")) =
      .ok path ∧
    store.files path = .ok place ∧
    ((∃ content, place = .file content ∧ store.library.yaml content = .ok entries) ∨
      (∀ content, place ≠ .file content) ∧ entries = [])

/-- The layers are a store's variables, the entries of its file, and arguments none of which is the
library's own. -/
structure Layered (store : SettingsStore) (l : Layers) : Prop where
  env : store.env = l.env
  file : store.HasFile l.file
  plain : SettingsLibrary.IsPlain l.given

theorem readFile_of_hasFile {store : SettingsStore} {entries : Object}
    (file : store.HasFile entries) : store.readFile = .ok entries := by
  obtain ⟨path, place, expanded, found, ⟨content, rfl, read⟩ | ⟨other, rfl⟩⟩ := file
  · rw [readFile, configFile, fileVariable, usualFile, expanded, bind_ok, found, bind_ok]
    exact read
  · rw [readFile, configFile, fileVariable, usualFile, expanded, bind_ok, found, bind_ok]
    cases place with
    | file content => exact absurd rfl (other content)
    | nothing | directory | device => rfl

theorem isCaseless_config : SettingsLibrary.IsCaseless Settings.config where
  inexact := rfl
  small field listed := by
    obtain ⟨f, rfl⟩ := SettingField.exists_of_mem listed
    exact f.lowered_variable

theorem create_layered {store : SettingsStore} {l : Layers} (lawful : store.library.Collects)
    (layered : store.Layered l) :
    ∃ values, store.create l.given = Sources.load ⟨store.library, l.env, values⟩ ∧
      ∀ f : SettingField, values.get? f.name = l.chosen? store.library f := by
  obtain ⟨given, told, handed, sets⟩ :=
    lawful.handed store.files store.env isCaseless_config layered.plain
  obtain ⟨values, merged, stands⟩ := lawful.merged Settings.config
    [given, told, [], named store.library l.file, []] layered.plain
  refine ⟨values, ?_, fun f => ?_⟩
  · rw [create, handed, readFile_of_hasFile layered.file, ← layered.env]
    change (store.library.merged Settings.config l.given
      (List.map .ok [given, told, [], named store.library l.file, []]) >>= _) = _
    rw [merged]
    rfl
  · have listed : f.name ∈ Settings.config.fields := f.name_mem
    obtain ⟨first, second⟩ := sets f.name listed
    have file : (named store.library l.file).get? f.name =
        store.library.entryFor l.file f.name :=
      (Object.get?_filterMap _ _ _).trans (if_pos listed)
    rw [stands f.name listed, Layers.chosen?, ← layered.env]
    simp only [List.findSome?_cons, List.findSome?_nil, first, second, file,
      show Settings.config.lead = "elastic_devtools_" from rfl]
    cases store.library.entryFor l.given f.name with
    | some value => rfl
    | none => cases store.library.variableFor store.env ("elastic_devtools_" ++ f.name) with
      | some text => rfl
      | none => cases store.library.entryFor l.file f.name <;> rfl

end SettingsStore

namespace Layers

/-- Settings that are created from layers settle them, and do not depend on what else is in the
layers: not on a value below another one for the same field, and not on a name that is no field's
and does not tell the environment. -/
theorem settle_create {store : SettingsStore} {l : Layers} (lawful : store.library.Lawful)
    (layered : store.Layered l) :
    l.Settle store.library (store.create l.given) ∧
      ∀ {other : SettingsStore} {m : Layers}, other.Layered m → other.library = store.library →
        ((∀ f, l.chosen? store.library f = m.chosen? store.library f) →
          (l.chosen? store.library .environment = none →
            Sources.detected l.env = Sources.detected m.env) →
          store.create l.given = other.create m.given) ∧
        (l.known = m.known → store.create l.given = other.create m.given) := by
  obtain ⟨values, created, stands⟩ := SettingsStore.create_layered lawful.toCollects layered
  rw [created]
  refine ⟨settle_load lawful stands, fun {other m} again same => ?_⟩
  have collects : other.library.Collects := same ▸ lawful.toCollects
  obtain ⟨others, made, stand⟩ := SettingsStore.create_layered collects again
  rw [same] at made stand
  rw [made]
  -- The variables count beyond the values that stand only where these leave the environment open.
  have depends (chosen : ∀ f, l.chosen? store.library f = m.chosen? store.library f)
      (told : l.chosen? store.library .environment = none →
        Sources.detected l.env = Sources.detected m.env) :
      Sources.load ⟨store.library, l.env, values⟩ =
        Sources.load ⟨store.library, m.env, others⟩ := by
    have values f := (stands f).trans ((chosen f).trans (stand f).symm)
    have readings := Sources.readings_congr store.library values fun silent =>
      told ((stands .environment).symm.trans silent)
    rw [Sources.load, Sources.load, readings]
  refine ⟨depends, fun same => depends (fun f => ?_) fun _ => ?_⟩
  · rw [← chosen?_known lawful.toCollects, same, chosen?_known lawful.toCollects]
  · rw [← detected_known l.env, ← detected_known m.env]
    exact congrArg (Sources.detected ∘ Layers.env) same

def machine : Machine := ⟨"/root", [], 4300, 480⟩

def store (env : Variables) (content : String) : SettingsStore :=
  .initial (.installed machine) env fun path =>
    .ok (if path = ⟨"", ["conf.yaml"]⟩ then .file content else .nothing)

/-- Layers with unreadable retries below readable ones, and with a name that is no field's. -/
def overlaid : Layers where
  given := [("max_retries", .int 5), ("surplus", .bool true)]
  env := [("elastic_devtools_max_retries", "many"),
    ("Elastic_Devtools_Environment", "production"), ("ENVIRONMENT", "test")]
  file := [("hosts", .str "http://es1:9200"), ("max_retries", .int (-1)),
    ("log_format", .str "console")]

def overlaidFile : String :=
  "\x7b\"hosts\": \"http://es1:9200\", \"max_retries\": -1, \"log_format\": \"console\"\x7d"

def bare : Layers where
  given := [("max_retries", .int 5)]
  env := [("ELASTIC_DEVTOOLS_ENVIRONMENT", "production")]
  file := [("hosts", .str "http://es1:9200"), ("log_format", .str "console")]

def bareFile : String := "\x7b\"hosts\": \"http://es1:9200\", \"log_format\": \"console\"\x7d"

theorem layered_store {given entries : Object} {env : Variables} {content : String}
    (file : SettingsFile.entries 480 content = .ok entries)
    (unnamed : env.get? "ELASTIC_DEVTOOLS_CONFIG_FILE" = none)
    (plain : SettingsLibrary.IsPlain given) :
    (store env content).Layered ⟨given, env, entries⟩ where
  env := rfl
  file := by
    refine ⟨⟨"", ["conf.yaml"]⟩, .file content, ?_, rfl, .inl ⟨content, rfl, file⟩⟩
    change machine.expanded env (Path.ofText ((env.get? "ELASTIC_DEVTOOLS_CONFIG_FILE").getD _)) = _
    rw [unnamed]
    rfl
  plain := plain

theorem chosen?_overlaid (f : SettingField) :
    overlaid.chosen? (.installed machine) f = match f with
      | .maxRetries => some (.int 5)
      | .environment => some (.str "production")
      | .hosts => some (.str "http://es1:9200")
      | .logFormat => some (.str "console")
      | _ => none := by
  cases f <;> rfl

theorem means_host : SettingField.hosts.Means (.str "http://es1:9200") (.str "http://es1:9200") :=
  ⟨_, rfl, ⟨'h', by decide⟩, rfl⟩

theorem means_overlaid (f : SettingField) (value : Json)
    (chosen : overlaid.chosen? (.installed machine) f = some value) :
    ∃ shown, f.Means value shown := by
  rw [chosen?_overlaid] at chosen
  cases f with
  | maxRetries =>
    cases chosen
    exact ⟨.int 5, 5, .int 5, by decide, rfl⟩
  | environment =>
    cases chosen
    exact ⟨_, .production, rfl, rfl⟩
  | hosts =>
    cases chosen
    exact ⟨_, means_host⟩
  | logFormat =>
    cases chosen
    exact ⟨_, .console, rfl, rfl⟩
  | _ => cases chosen

theorem isNoWhole_many : IsNoWhole (.str "many") := by
  refine .text ?_
  rw [show "many".toList = ['m', 'a', 'n', 'y'] from rfl]
  simp only [List.forall_mem_cons, List.not_mem_nil, false_implies, implies_true, and_true]
  exact ⟨rfl, rfl, rfl, rfl⟩

theorem settle_create_overlaid :
    ∃ s, (store overlaid.env overlaidFile).create overlaid.given = .ok s ∧
      s.maxRetries = 5 ∧ s.hosts = "http://es1:9200" ∧ s.environment = .production ∧
      s.logFormat = .json ∧ (store bare.env bareFile).create bare.given = .ok s ∧
      ∃ faults fault, (store overlaid.env overlaidFile).create [("max_retries", .str "many")] =
        .error (.settings faults) ∧ ("max_retries", fault) ∈ faults := by
  have lawful : (SettingsLibrary.installed machine).Lawful :=
    SettingsLibrary.lawful_installed (by decide)
  have read : SettingsFile.entries 480 overlaidFile = .ok overlaid.file := by decide +kernel
  have layered : (store overlaid.env overlaidFile).Layered overlaid :=
    layered_store read rfl (by decide)
  have fewer : (store bare.env bareFile).Layered bare :=
    layered_store (by decide +kernel) rfl (by decide)
  have worse : (store overlaid.env overlaidFile).Layered
      ⟨[("max_retries", .str "many")], overlaid.env, overlaid.file⟩ :=
    layered_store read rfl (by decide)
  obtain ⟨settle, depends⟩ := settle_create lawful layered
  obtain ⟨s, made⟩ := settle.accepts means_overlaid
  have retries := settle.means s made .maxRetries _ (.int 5) (chosen?_overlaid _)
    ⟨5, .int 5, by decide, rfl⟩ (.inl (by decide))
  have named := settle.means s made .environment _ (.str "production") (chosen?_overlaid _)
    ⟨.production, rfl, rfl⟩ (.inl (by decide))
  have listed := settle.means s made .hosts _ _ (chosen?_overlaid _) means_host (.inl (by decide))
  have production : s.environment = .production := Environment.name_injective (Json.str.inj named)
  refine ⟨s, made, Int.ofNat.inj (Json.int.inj retries), Json.str.inj listed, production,
    settle.production s made production, ?_, ?_⟩
  · have same (f : SettingField) : overlaid.chosen? (store overlaid.env overlaidFile).library f =
        bare.chosen? (store overlaid.env overlaidFile).library f := by
      exact (chosen?_overlaid f).trans (by cases f <;> rfl)
    refine ((depends fewer rfl).1 same fun silent => ?_).symm.trans made
    cases (chosen?_overlaid .environment).symm.trans silent
  · have many : (Layers.mk [("max_retries", .str "many")] overlaid.env overlaid.file).chosen?
        (store overlaid.env overlaidFile).library .maxRetries = some (.str "many") := rfl
    exact (settle_create lawful worse).1.refuses .maxRetries _ many (.inl isNoWhole_many)

end Layers

end SearchRequest
