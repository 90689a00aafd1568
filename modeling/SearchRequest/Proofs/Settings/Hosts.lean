import SearchRequest.Proofs.Arguments
import SearchRequest.Proofs.Outcome
import SearchRequest.Proofs.Text.Pieces
import SearchRequest.Proofs.Text.Trim
import SearchRequest.Session.Scoped

/-!
The hosts of settings. Each host that a text lists is bare, and the text lists one when there is
anything in it besides commas and blanks. The sources of settings check that there is; what a
session is given in place of shared settings is not checked.
-/

namespace SearchRequest

namespace Settings

/-- There is something in the text besides commas and blanks. -/
def NamesHost (value : String) : Prop := ∃ c ∈ value.toList, c ≠ ',' ∧ Text.isBlankChar c = false

theorem mem_hostsOf {value host : String} :
    host ∈ hostsOf value ↔ ∃ piece ∈ Text.pieces ',' value.toList,
      Text.isBlank (String.ofList piece) = false ∧ Text.trim (String.ofList piece) = host := by
  simp only [hostsOf, List.mem_map, List.mem_filter, Bool.not_eq_true', exists_exists_and_eq_and,
    and_assoc]

theorem isBare_of_mem_hostsOf {value host : String} (listed : host ∈ hostsOf value) :
    Text.IsBare host := by
  obtain ⟨piece, _, filled, rfl⟩ := mem_hostsOf.mp listed
  exact Text.isBare_trim filled

theorem hostsOf_ne_nil {value : String} : hostsOf value ≠ [] ↔ NamesHost value := by
  have among (c : Char) : (∃ piece ∈ Text.pieces ',' value.toList, c ∈ piece) ↔
      c ∈ value.toList ∧ c ≠ ',' := by
    rw [← List.mem_flatten, Text.flatten_pieces, List.mem_filter, bne_iff_ne]
  -- A character that is no comma and not blank lies in a piece, and keeps it from being dropped.
  constructor
  · intro filled
    obtain ⟨host, listed⟩ := List.exists_mem_of_ne_nil _ filled
    obtain ⟨piece, here, notBlank, _⟩ := mem_hostsOf.mp listed
    obtain ⟨c, inside, plain⟩ := Text.isBlank_eq_false.mp notBlank
    rw [String.toList_ofList] at inside
    obtain ⟨known, other⟩ := (among c).mp ⟨piece, here, inside⟩
    exact ⟨c, known, other, plain⟩
  · rintro ⟨c, known, other, plain⟩
    obtain ⟨piece, here, inside⟩ := (among c).mpr ⟨known, other⟩
    have notBlank : Text.isBlank (String.ofList piece) = false :=
      Text.isBlank_eq_false.mpr ⟨c, by rwa [String.toList_ofList], plain⟩
    exact List.ne_nil_of_mem (mem_hostsOf.mpr ⟨piece, here, notBlank, rfl⟩)

theorem namesHost_append {first second : String} :
    NamesHost (first ++ second) ↔ NamesHost first ∨ NamesHost second := by
  simp only [NamesHost, String.toList_append, List.mem_append, or_and_right, exists_or]

theorem namesHost_intercalate (texts : List String) :
    NamesHost (",".intercalate texts) ↔ ∃ text ∈ texts, NamesHost text := by
  have nothing : ¬ NamesHost "" := by
    rintro ⟨c, listed, _⟩
    cases listed
  have comma : ¬ NamesHost "," := by
    rintro ⟨c, listed, other, _⟩
    exact other (List.mem_singleton.mp listed)
  induction texts with
  | nil => exact iff_of_false nothing fun ⟨_, listed, _⟩ => absurd listed List.not_mem_nil
  | cons first rest ih =>
    cases rest with
    | nil =>
      rw [String.intercalate_singleton]
      simp only [List.mem_singleton, exists_eq_left]
    | cons second others =>
      rw [String.intercalate_cons_cons, namesHost_append, namesHost_append, or_iff_left comma,
        List.exists_mem_cons_iff]
      exact or_congr_right ih

/-- There is somewhere to connect to, and every host can be taken as it stands. -/
structure Reaches (s : Settings) : Prop where
  filled : s.hostList ≠ []
  bare : ∀ host ∈ s.hostList, Text.IsBare host

theorem reaches_iff {s : Settings} : s.Reaches ↔ NamesHost s.hosts :=
  ⟨fun reaches => hostsOf_ne_nil.mp reaches.filled,
    fun named => ⟨hostsOf_ne_nil.mpr named, fun _ => isBare_of_mem_hostsOf⟩⟩

theorem hosts_settled (s : Settings) : s.settled.hosts = s.hosts := by
  unfold settled
  split <;> rfl

end Settings

namespace Sources

theorem hosts_eq_ok {library : SettingsLibrary} {value : Json} {text : String} :
    hosts library value = .ok text ↔ library.text value = .ok text ∧ Settings.NamesHost text := by
  have checked (listed : String) :
      (if (Settings.hostsOf listed).isEmpty then .error .hosts else .ok listed :
        Except SettingFault String) = .ok text ↔ listed = text ∧ Settings.NamesHost text := by
    rw [unless_eq_ok, List.isEmpty_iff, ← ne_eq, Settings.hostsOf_ne_nil]
    exact and_congr_right fun same => by rw [same]
  rw [hosts, bind_eq_ok]
  simp only [checked]
  constructor
  · rintro ⟨_, read, rfl, named⟩
    exact ⟨read, named⟩
  · rintro ⟨read, named⟩
    exact ⟨text, read, rfl, named⟩

theorem Readings.hosts_of_settings {r : Readings} {settings : Settings}
    (read : r.settings = .ok settings) : r.hosts = .ok settings.hosts := by
  unfold Readings.settings at read
  simp only [bind_eq_ok] at read
  obtain ⟨_, _, _, _, _, _, hosts, found, _, _, _, _, _, _, _, _, _, _, _, _, _, _, _, _, _, _,
    same⟩ := read
  cases same
  exact found

theorem reaches_of_load {s : Sources} {settings : Settings} (loaded : s.load = .ok settings) :
    settings.Reaches := by
  unfold load at loaded
  dsimp only at loaded
  split at loaded
  · rename_i unsettled read
    cases loaded
    -- A source that sets the hosts has them checked; the fallback is not checked, but names one.
    have listed : s.read "hosts" (hosts s.library) "http://localhost:9200" =
        .ok unsettled.hosts := Readings.hosts_of_settings read
    rw [Settings.reaches_iff, Settings.hosts_settled]
    unfold Sources.read at listed
    split at listed
    · exact (hosts_eq_ok.mp listed).2
    · rw [← Except.ok.inj listed]
      exact ⟨'h', by decide⟩
  · cases loaded

end Sources

namespace SettingsStore

theorem load_of_create {store : SettingsStore} {given : Object} {settings : Settings}
    (created : store.create given = .ok settings) :
    ∃ sources : Sources, sources.load = .ok settings := by
  obtain ⟨handed, _, created⟩ := bind_eq_ok.mp created
  obtain ⟨file, _, created⟩ := bind_eq_ok.mp created
  obtain ⟨values, _, loaded⟩ := bind_eq_ok.mp created
  exact ⟨_, loaded⟩

theorem reaches_of_create {store : SettingsStore} {given : Object} {settings : Settings}
    (created : store.create given = .ok settings) : settings.Reaches := by
  obtain ⟨sources, loaded⟩ := load_of_create created
  exact Sources.reaches_of_load loaded

/-- What a program can make of the store: the environment and the files may change at any time, and
a reload forgets what is kept before it gets the settings. -/
inductive Reached : SettingsStore → Prop
  | initial (library : SettingsLibrary) (env : Variables) (files : FileSystem) :
      Reached (initial library env files)
  | changed {store : SettingsStore} (reached : Reached store) (env : Variables)
      (files : FileSystem) : Reached { store with env := env, files := files }
  | forgotten {store : SettingsStore} (reached : Reached store) :
      Reached { store with kept := none }
  | got {store : SettingsStore} (reached : Reached store) : Reached store.get.2

def Keeps (P : Settings → Prop) (store : SettingsStore) : Prop :=
  ∀ loaded, store.kept = some loaded → P loaded.settings

theorem keeps_of_empty {P : Settings → Prop} {store : SettingsStore} (empty : store.kept = none) :
    store.Keeps P := by
  intro loaded kept
  rw [empty] at kept
  cases kept

section Created

variable {P : Settings → Prop}
  (created : ∀ {store : SettingsStore} {given : Object} {settings : Settings},
    store.create given = .ok settings → P settings)

include created

theorem Keeps.get {store : SettingsStore} (keeps : store.Keeps P) :
    store.get.2.Keeps P ∧ ∀ loaded, store.get.1 = .ok loaded → P loaded.settings := by
  unfold SettingsStore.get
  split
  · rename_i loaded kept
    refine ⟨keeps, fun given same => ?_⟩
    cases same
    exact keeps loaded kept
  · split
    · refine ⟨keeps, fun loaded same => ?_⟩
      cases same
    · rename_i settings made
      have holds := created made
      constructor
      · intro loaded same
        cases same
        exact holds
      · intro loaded same
        cases same
        exact holds

theorem Reached.keeps {store : SettingsStore} (reached : store.Reached) : store.Keeps P := by
  induction reached with
  | initial => exact keeps_of_empty rfl
  | changed _ env files ih => exact ih
  | forgotten _ _ => exact keeps_of_empty rfl
  | got _ ih => exact (ih.get created).1

/-- What holds of all settings that are created holds of the shared ones. -/
theorem Reached.shared {store : SettingsStore} (reached : store.Reached) {loaded : Loaded}
    (got : store.get.1 = .ok loaded) : P loaded.settings :=
  ((reached.keeps created).get created).2 loaded got

end Created

end SettingsStore

namespace Overrides

def NamesHost : Json → Prop
  | .null => True
  | .str text => Settings.NamesHost text
  | .arr items => ∃ text, .str text ∈ items ∧ Settings.NamesHost text
  | _ => False

theorem texts_eq_ok {items : List Json} {read : List String} (all : texts items = .ok read) :
    items = read.map .str := by
  induction items generalizing read with
  | nil =>
    cases all
    rfl
  | cons item rest ih =>
    cases item with
    | str text =>
      obtain ⟨others, found, same⟩ := bind_eq_ok.mp all
      cases same
      rw [ih found, List.map_cons]
    | _ => cases all

theorem hosts_of_arguments {args : Object} {o : Overrides} (read : ofArguments args = .ok o) :
    joined (args.field "hosts") = .ok o.hosts := by
  obtain ⟨a, bound, read⟩ := bind_eq_ok.mp read
  obtain ⟨hosts, found, same⟩ := bind_eq_ok.mp read
  cases same
  rw [← Parameter.value_optional]
  rw [Signature.fields_of_bind bound] at found
  exact found

theorem namesHost_applied {args : Object} {o : Overrides} {shared settings : Settings}
    (read : ofArguments args = .ok o) (applied : o.applied shared = .ok settings)
    (reaches : shared.Reaches) :
    Settings.NamesHost settings.hosts ↔ NamesHost (args.field "hosts") := by
  have named := Settings.reaches_iff.mp reaches
  have given := hosts_of_arguments read
  obtain ⟨hosts, taken, same⟩ := bind_eq_ok.mp applied
  cases same
  generalize args.field "hosts" = value at given
  cases value with
  | null =>
    rw [← Except.ok.inj given] at taken
    cases taken
    exact iff_of_true named trivial
  | str text =>
    rw [← Except.ok.inj given] at taken
    cases taken
    rfl
  | arr items =>
    obtain ⟨texts, all, same⟩ := bind_eq_ok.mp given
    rw [← Except.ok.inj same] at taken
    cases taken
    rw [texts_eq_ok all]
    simp only [NamesHost, List.mem_map, Json.str.injEq, exists_eq_right]
    exact Settings.namesHost_intercalate texts
  | _ =>
    rw [← Except.ok.inj given] at taken
    cases taken

end Overrides

/-- Settings as a caller gets them, by what was given as hosts in place of the shared ones: settings
of the caller's own, the shared ones, and those of a session that overrides them. -/
inductive Settings.BuiltFor : Json → Settings → Prop
  | created {store : SettingsStore} {given : Object} {settings : Settings}
      (created : store.create given = .ok settings) : BuiltFor .null settings
  | shared {store : SettingsStore} {loaded : Loaded} (reached : store.Reached)
      (got : store.get.1 = .ok loaded) : BuiltFor .null loaded.settings
  | overridden {store : SettingsStore} {args : Object} {overrides : Overrides}
      {creations : Creations} {pages : PageSource} {session : Session} (reached : store.Reached)
      (read : Overrides.ofArguments args = .ok overrides)
      (opened : (Session.overriding store overrides creations pages).1 = .ok session) :
      BuiltFor (args.field "hosts") session.settings

theorem Settings.BuiltFor.reaches_iff {hosts : Json} {settings : Settings}
    (built : settings.BuiltFor hosts) : settings.Reaches ↔ Overrides.NamesHost hosts := by
  cases built with
  | created created => exact iff_of_true (SettingsStore.reaches_of_create created) trivial
  | shared reached got =>
    exact iff_of_true (reached.shared SettingsStore.reaches_of_create got) trivial
  | overridden reached read opened =>
    obtain ⟨loaded, got, overridden⟩ := bind_eq_ok.mp opened
    obtain ⟨settings, applied, same⟩ := bind_eq_ok.mp overridden
    cases same
    rw [Settings.reaches_iff]
    exact Overrides.namesHost_applied read applied
      (reached.shared SettingsStore.reaches_of_create got)

end SearchRequest
