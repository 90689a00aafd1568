import SearchRequest.Proofs.Settings.Hosts
import SearchRequest.Proofs.Settings.Library

/-!
The fields of settings: what a value means in a field, which values a field refuses, and what it is
when nothing sets it. A lawful library reads values accordingly.
-/

namespace SearchRequest

namespace Settings

theorem environment_settled (s : Settings) : s.settled.environment = s.environment := by
  rw [settled]
  split <;> rfl

theorem logFormat_settled {s : Settings} (production : s.settled.environment = .production) :
    s.settled.logFormat = .json := by
  rw [environment_settled] at production
  rw [settled, if_pos production]

end Settings

theorem Text.lowered_append (first second : String) :
    lowered (first ++ second) = lowered first ++ lowered second := by
  rw [lowered, String.toList_append, List.flatMap_append, String.ofList_append]
  rfl

theorem Environment.name_injective : Function.Injective Environment.name := by
  intro a b
  cases a <;> cases b <;> decide

inductive SettingField
  | apiKey
  | defaultPageSize
  | environment
  | hosts
  | indexPrefix
  | logFormat
  | logLevel
  | maxRetries
  | password
  | requestTimeout
  | retryOnTimeout
  | username
  | verifyCerts
deriving DecidableEq

namespace SettingField

def name : SettingField → String
  | .apiKey => "api_key"
  | .defaultPageSize => "default_page_size"
  | .environment => "environment"
  | .hosts => "hosts"
  | .indexPrefix => "index_prefix"
  | .logFormat => "log_format"
  | .logLevel => "log_level"
  | .maxRetries => "max_retries"
  | .password => "password"
  | .requestTimeout => "request_timeout"
  | .retryOnTimeout => "retry_on_timeout"
  | .username => "username"
  | .verifyCerts => "verify_certs"

def all : List SettingField :=
  [.apiKey, .defaultPageSize, .environment, .hosts, .indexPrefix, .logFormat, .logLevel,
   .maxRetries, .password, .requestTimeout, .retryOnTimeout, .username, .verifyCerts]

theorem mem_all (f : SettingField) : f ∈ all := by cases f <;> decide

theorem exists_of_mem {field : String} (listed : field ∈ Settings.fields) :
    ∃ f : SettingField, f.name = field := by
  have same : Settings.fields.Perm (all.map name) := by decide
  obtain ⟨f, _, named⟩ := List.mem_map.mp (same.mem_iff.mp listed)
  exact ⟨f, named⟩

theorem name_mem (f : SettingField) : f.name ∈ Settings.fields := by cases f <;> decide

@[simp] theorem lowered_name (f : SettingField) : Text.lowered f.name = f.name := by
  cases f <;> rfl

@[simp] theorem lowered_variable (f : SettingField) :
    Text.lowered ("elastic_devtools_" ++ f.name) = "elastic_devtools_" ++ f.name := by
  rw [Text.lowered_append, lowered_name]
  rfl

/-- What a value that is given for the field makes it, as settings show it. -/
def Means (f : SettingField) (value shown : Json) : Prop :=
  match f with
  | .environment => ∃ e : Environment, value = .str e.name ∧ shown = .str e.name
  | .logFormat => ∃ e : LogFormat, value = .str e.name ∧ shown = .str e.name
  | .logLevel => ∃ e : LogLevel, value = .str e.name ∧ shown = .str e.name
  | .hosts => ∃ text, value = .str text ∧ Settings.NamesHost text ∧ shown = .str text
  | .indexPrefix => ∃ text, value = .str text ∧ shown = .str text
  | .apiKey | .password | .username =>
      ∃ text : Option String, value = .ofText? text ∧ shown = .ofText? text
  | .retryOnTimeout | .verifyCerts => ∃ flag, IsFlag value flag ∧ shown = .bool flag
  | .requestTimeout => ∃ number, IsNumber value number ∧ shown = .float number
  | .defaultPageSize => ∃ count, IsWhole value count ∧ 1 ≤ count ∧ shown = .int count
  | .maxRetries => ∃ count, IsWhole value count ∧ 0 ≤ count ∧ shown = .int count

/-- A value that cannot be given for the field. -/
def Refuses (f : SettingField) (value : Json) : Prop :=
  match f with
  | .environment => ∀ e : Environment, value ≠ .str e.name
  | .logFormat => ∀ e : LogFormat, value ≠ .str e.name
  | .logLevel => ∀ e : LogLevel, value ≠ .str e.name
  | .hosts => ∀ text, value = .str text → ¬ Settings.NamesHost text
  | .indexPrefix => ∀ text, value ≠ .str text
  | .apiKey | .password | .username => ∀ text : Option String, value ≠ .ofText? text
  | .retryOnTimeout | .verifyCerts => ∀ flag, ¬ IsFlag value flag
  | .requestTimeout => IsNoNumber value
  | .defaultPageSize => IsNoWhole value ∨ ∃ count, IsWhole value count ∧ count < 1
  | .maxRetries => IsNoWhole value ∨ ∃ count, IsWhole value count ∧ count < 0

/-- What the field is when nothing sets it. -/
def fallback (f : SettingField) (env : Variables) : Json :=
  match f with
  | .environment => .str (Sources.detected env).name
  | .logFormat => .str "console"
  | .logLevel => .str "INFO"
  | .hosts => .str "http://localhost:9200"
  | .indexPrefix => .str ""
  | .apiKey | .password | .username => .null
  | .retryOnTimeout => .bool false
  | .verifyCerts => .bool true
  | .requestTimeout => .float (.finite false 3 1)
  | .defaultPageSize => .int 25
  | .maxRetries => .int 3

def of (f : SettingField) (s : Settings) : Json := s.entries.field f.name

theorem of_settled {f : SettingField} {s : Settings}
    (kept : f ≠ .logFormat ∨ s.settled.environment ≠ .production) : f.of s.settled = f.of s := by
  rw [Settings.environment_settled] at kept
  rw [Settings.settled]
  split
  case isFalse => rfl
  case isTrue production =>
    have other : f ≠ .logFormat := kept.resolve_right (absurd production)
    cases f <;> first | rfl | exact absurd rfl other

def read (f : SettingField) (library : SettingsLibrary) (value : Json) :
    Except SettingFault Json :=
  match f with
  | .environment => (Sources.environment library value).map fun e => .str e.name
  | .logFormat => (Sources.logFormat library value).map fun e => .str e.name
  | .logLevel => (Sources.logLevel library value).map fun e => .str e.name
  | .hosts => (Sources.hosts library value).map .str
  | .indexPrefix => (library.text value).map .str
  | .apiKey | .password | .username => (library.optionalText value).map .ofText?
  | .retryOnTimeout | .verifyCerts => (library.flag value).map .bool
  | .requestTimeout => (library.number value).map .float
  | .defaultPageSize => (Sources.wholeFrom 1 library value).map fun count : Nat => .int count
  | .maxRetries => (Sources.wholeFrom 0 library value).map fun count : Nat => .int count

end SettingField

namespace Sources

theorem naming_eq_ok {α : Type} {all : List α} {name : α → String}
    (distinct : Function.Injective name) (complete : ∀ a, a ∈ all) {value : Json}
    {read : Except SettingFault String}
    (reads : ∀ text, read = .ok text ↔ value = .str text ∧ text ∈ all.map name)
    {fault : SettingFault} {a : α} :
    naming (fun text => all.find? (name · == text)) fault read = .ok a ↔ value = .str (name a) := by
  have named (text : String) : all.find? (name · == text) = some a ↔ text = name a := by
    constructor
    · intro found
      exact (beq_iff_eq.mp (List.find?_some (p := fun a => name a == text) found)).symm
    · rintro rfl
      have some : (all.find? (name · == name a)).isSome :=
        List.find?_isSome.mpr ⟨a, complete a, beq_self_eq_true (name a)⟩
      obtain ⟨b, found⟩ := Option.isSome_iff_exists.mp some
      have same := beq_iff_eq.mp (List.find?_some (p := fun b => name b == name a) found)
      rw [found, distinct same]
  rw [naming, bind_eq_ok]
  constructor
  · rintro ⟨text, got, chosen⟩
    cases found : all.find? (name · == text) with
    | none =>
      rw [found] at chosen
      cases chosen
    | some b =>
      rw [found] at chosen
      cases chosen
      rw [((reads text).mp got).1, (named text).mp found]
  · intro same
    refine ⟨name a, (reads _).mpr ⟨same, List.mem_map_of_mem (complete a)⟩, ?_⟩
    rw [(named _).mpr rfl]

theorem wholeFrom_eq_ok {least : Nat} {library : SettingsLibrary} {value : Json} {count : Nat} :
    wholeFrom least library value = .ok count ↔
      library.whole value = .ok (count : Int) ∧ least ≤ count := by
  have taken (n : Int) : (if (least : Int) ≤ n then .ok n.toNat else .error .tooSmall :
      Except SettingFault Nat) = .ok count ↔ n = count ∧ least ≤ count := by
    split
    · rw [Except.ok.injEq]
      omega
    · simp only [reduceCtorEq, false_iff]
      omega
  rw [wholeFrom, bind_eq_ok]
  simp only [taken]
  constructor
  · rintro ⟨_, read, rfl, large⟩
    exact ⟨read, large⟩
  · rintro ⟨read, large⟩
    exact ⟨count, read, rfl, large⟩

section Lawful

variable {library : SettingsLibrary} (lawful : library.Converts)

include lawful

theorem environment_eq_ok {value : Json} {e : Environment} :
    environment library value = .ok e ↔ value = .str e.name :=
  naming_eq_ok Environment.name_injective (fun e => by cases e <;> decide) fun _ => lawful.member

theorem logFormat_eq_ok {value : Json} {e : LogFormat} :
    logFormat library value = .ok e ↔ value = .str e.name :=
  naming_eq_ok (fun a b => by cases a <;> cases b <;> decide) (fun e => by cases e <;> decide)
    fun _ => lawful.literal

theorem logLevel_eq_ok {value : Json} {e : LogLevel} :
    logLevel library value = .ok e ↔ value = .str e.name :=
  naming_eq_ok (fun a b => by cases a <;> cases b <;> decide) (fun e => by cases e <;> decide)
    fun _ => lawful.literal

end Lawful

end Sources

namespace SettingField

variable {library : SettingsLibrary} {f : SettingField} {value shown : Json}

theorem read_of_means (lawful : library.Converts) (means : f.Means value shown) :
    f.read library value = .ok shown := by
  cases f with
  | environment =>
    obtain ⟨e, same, rfl⟩ := means
    exact map_eq_ok.mpr ⟨e, (Sources.environment_eq_ok lawful).mpr same, rfl⟩
  | logFormat =>
    obtain ⟨e, same, rfl⟩ := means
    exact map_eq_ok.mpr ⟨e, (Sources.logFormat_eq_ok lawful).mpr same, rfl⟩
  | logLevel =>
    obtain ⟨e, same, rfl⟩ := means
    exact map_eq_ok.mpr ⟨e, (Sources.logLevel_eq_ok lawful).mpr same, rfl⟩
  | hosts =>
    obtain ⟨text, same, named, rfl⟩ := means
    exact map_eq_ok.mpr ⟨text, Sources.hosts_eq_ok.mpr ⟨lawful.text.mpr same, named⟩, rfl⟩
  | indexPrefix =>
    obtain ⟨text, same, rfl⟩ := means
    exact map_eq_ok.mpr ⟨text, lawful.text.mpr same, rfl⟩
  | apiKey | password | username =>
    obtain ⟨text, same, rfl⟩ := means
    exact map_eq_ok.mpr ⟨text, lawful.optionalText.mpr same, rfl⟩
  | retryOnTimeout | verifyCerts =>
    obtain ⟨flag, meant, rfl⟩ := means
    exact map_eq_ok.mpr ⟨flag, lawful.flag.mpr meant, rfl⟩
  | requestTimeout =>
    obtain ⟨number, meant, rfl⟩ := means
    exact map_eq_ok.mpr ⟨number, lawful.number meant, rfl⟩
  | defaultPageSize | maxRetries =>
    obtain ⟨count, meant, large, rfl⟩ := means
    lift count to Nat using by omega
    exact map_eq_ok.mpr
      ⟨count, Sources.wholeFrom_eq_ok.mpr ⟨lawful.whole meant, by omega⟩, rfl⟩

theorem not_succeeds_of_refuses (lawful : library.Converts) (refuses : f.Refuses value) :
    ¬ Succeeds (f.read library value) := by
  rintro ⟨shown, read⟩
  cases f with
  | environment =>
    obtain ⟨e, taken, -⟩ := map_eq_ok.mp read
    exact refuses e ((Sources.environment_eq_ok lawful).mp taken)
  | logFormat =>
    obtain ⟨e, taken, -⟩ := map_eq_ok.mp read
    exact refuses e ((Sources.logFormat_eq_ok lawful).mp taken)
  | logLevel =>
    obtain ⟨e, taken, -⟩ := map_eq_ok.mp read
    exact refuses e ((Sources.logLevel_eq_ok lawful).mp taken)
  | hosts =>
    obtain ⟨text, taken, -⟩ := map_eq_ok.mp read
    obtain ⟨listed, named⟩ := Sources.hosts_eq_ok.mp taken
    exact refuses text (lawful.text.mp listed) named
  | indexPrefix =>
    obtain ⟨text, taken, -⟩ := map_eq_ok.mp read
    exact refuses text (lawful.text.mp taken)
  | apiKey | password | username =>
    obtain ⟨text, taken, -⟩ := map_eq_ok.mp read
    exact refuses text (lawful.optionalText.mp taken)
  | retryOnTimeout | verifyCerts =>
    obtain ⟨flag, taken, -⟩ := map_eq_ok.mp read
    exact refuses flag (lawful.flag.mp taken)
  | requestTimeout =>
    obtain ⟨number, taken, -⟩ := map_eq_ok.mp read
    exact lawful.noNumber refuses ⟨number, taken⟩
  | defaultPageSize | maxRetries =>
    obtain ⟨count, taken, -⟩ := map_eq_ok.mp read
    obtain ⟨whole, large⟩ := Sources.wholeFrom_eq_ok.mp taken
    -- Either it is no whole number, or the number that it is lies below the least one.
    obtain none | ⟨other, meant, small⟩ := refuses
    · exact lawful.noWhole none ⟨count, whole⟩
    · have same := Except.ok.inj (whole.symm.trans (lawful.whole meant))
      omega

end SettingField

end SearchRequest
