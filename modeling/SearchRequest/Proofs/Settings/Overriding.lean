import SearchRequest.Connection.Basic
import SearchRequest.Proofs.Settings.Hosts
import SearchRequest.Proofs.Settings.Layers

/-!
Settings that stand over shared ones. What is given replaces the shared setting, also where it is
empty, and what is not given leaves it; hosts that are given as a list are the hosts of the list.
A client identifies itself by what stands in the settings in the end, wherever it is from.
-/

namespace SearchRequest

theorem Settings.hostsOf_intercalate {texts : List String}
    (plain : ∀ text ∈ texts, ',' ∉ text.toList) :
    hostsOf (",".intercalate texts) = (texts.filter (!Text.isBlank ·)).map Text.trim := by
  cases texts with
  | nil => decide
  | cons first rest =>
    have parts : Text.pieces ',' ([','].intercalate ((first :: rest).map String.toList)) = _ :=
      Text.pieces_intercalate (List.cons_ne_nil _ _) (List.forall_mem_map.mpr plain)
    have same : String.ofList ∘ String.toList = id := funext fun _ => String.ofList_toList
    rw [hostsOf, String.toList_intercalate]
    change ((List.map _ (Text.pieces ',' ([','].intercalate _))).filter _).map _ = _
    rw [parts, List.map_map, same, List.map_id]

namespace Json

def IsTextOrNull (value : Json) : Prop := value = .null ∨ ∃ text, value = .str text

def filledText? : Json → Option String
  | .str text => if text = "" then none else some text
  | _ => none

theorem filled_cases {value : Json} (plain : value.IsTextOrNull) :
    value.truthy = false ∧ value.filledText? = none ∨
      value.truthy = true ∧ ∃ text, value.filledText? = some text ∧ value = .str text := by
  obtain rfl | ⟨text, rfl⟩ := plain
  · exact .inl ⟨rfl, rfl⟩
  · by_cases empty : text = ""
    · subst empty
      exact .inl ⟨rfl, rfl⟩
    · exact .inr ⟨by simp [truthy, empty], text, if_neg empty, rfl⟩

end Json

namespace Settings

structure Identified (s : Settings) : Prop where
  username : s.username.IsTextOrNull
  password : s.password.IsTextOrNull
  apiKey : s.apiKey.IsTextOrNull

theorem identified_of_create {store : SettingsStore} {given : Object} {settings : Settings}
    (created : store.create given = .ok settings) : settings.Identified := by
  obtain ⟨sources, loaded⟩ := SettingsStore.load_of_create created
  obtain ⟨unsettled, read, rfl⟩ := Sources.load_eq_ok.mp loaded
  have text (f : SettingField) {reading : Except SettingFault (Option String)}
      (shown : sources.readings.shown f = reading.map .ofText?) (other : f ≠ .logFormat) :
      (f.of unsettled.settled).IsTextOrNull := by
    rw [SettingField.of_settled (.inl other)]
    have taken := shown.symm.trans (Sources.Readings.shown_of_settings read f)
    cases reading with
    | error fault => cases taken
    | ok value =>
      rw [← Except.ok.inj taken]
      cases value with
      | none => exact .inl rfl
      | some text => exact .inr ⟨text, rfl⟩
  exact ⟨text .username rfl nofun, text .password rfl nofun, text .apiKey rfl nofun⟩

/-- The settings are the shared ones with what is given in their place. -/
structure Overridden (settings : Settings) (args : Object) (shared : Settings) : Prop where
  fields (f : SettingField) (other : f ≠ .hosts) :
    f.of settings = if args.field f.name = .null then f.of shared else args.field f.name
  kept : args.field "hosts" = .null → settings.hosts = shared.hosts
  given (text : String) : args.field "hosts" = .str text → settings.hosts = text
  listed (texts : List String) : args.field "hosts" = .arr (texts.map .str) →
    (∀ text ∈ texts, ',' ∉ text.toList) →
      settings.hostList = (texts.filter (!Text.isBlank ·)).map Text.trim

end Settings

namespace Overrides

/-- Arguments that can be given in place of shared settings: hosts as a text or as a list of texts,
and all else as texts. -/
structure Given (args : Object) : Prop where
  known : ∀ key ∈ args.keys, key ∈ ["hosts", "username", "password", "api_key", "index_prefix"]
  hosts : (args.field "hosts").IsTextOrNull ∨
    ∃ texts : List String, args.field "hosts" = .arr (texts.map .str)
  texts : ∀ key ∈ ["username", "password", "api_key", "index_prefix"],
    (args.field key).IsTextOrNull

theorem texts_map (read : List String) : texts (read.map .str) = .ok read := by
  induction read with
  | nil => rfl
  | cons text rest ih => rw [List.map_cons, texts, ih]; rfl

theorem ofArguments_eq_ok {args : Object} (given : Given args) {hosts : Json}
    (read : joined (args.field "hosts") = .ok hosts) :
    ofArguments args = .ok ⟨hosts, args.field "username", args.field "password",
      args.field "api_key", args.field "index_prefix"⟩ := by
  have known : ∀ key ∈ args.keys, signature.knows key = true := fun key listed =>
    Signature.knows_iff.mpr (given.known key listed)
  have bound := Signature.bind_of_known rfl rfl known rfl
  rw [ofArguments, bound]
  simp only [signature, Signature.closed, List.map_cons, List.map_nil, Parameter.value_optional,
    bind_ok]
  change (joined (args.field "hosts") >>= _) = _
  rw [read]
  rfl

theorem overridden_eq (shared given : Json) :
    overridden shared given = if given = .null then shared else given := by
  by_cases null : given = .null
  · rw [overridden, if_pos (Json.isNull_iff.mpr null), if_pos null]
  · rw [overridden, if_neg fun isNull => null (Json.isNull_iff.mp isNull), if_neg null]

theorem exists_overridden {args : Object} (given : Given args) (shared : Settings) :
    ∃ o settings, ofArguments args = .ok o ∧ o.applied shared = .ok settings ∧
      settings.Overridden args shared := by
  let changed (hosts : String) : Settings :=
    { shared with
      hosts := hosts
      username := overridden shared.username (args.field "username")
      password := overridden shared.password (args.field "password")
      apiKey := overridden shared.apiKey (args.field "api_key")
      indexPrefix := overridden shared.indexPrefix (args.field "index_prefix") }
  have fields (hosts : String) (f : SettingField) (other : f ≠ .hosts) :
      f.of (changed hosts) =
        if args.field f.name = .null then f.of shared else args.field f.name := by
    -- Only five fields can be overridden, so the argument of any other one is absent.
    have spared (unknown : f.name ∉ ["hosts", "username", "password", "api_key", "index_prefix"]) :
        args.field f.name = .null :=
      Object.field_of_absent fun listed => unknown (given.known _ listed)
    cases f with
    | username | password | apiKey | indexPrefix => exact overridden_eq _ _
    | hosts => exact absurd rfl other
    | _ => exact (if_pos (spared (by decide))).symm
  obtain (null | ⟨text, single⟩) | ⟨texts, several⟩ := given.hosts
  · have read : joined (args.field "hosts") = .ok .null := by rw [null]; rfl
    refine ⟨_, changed shared.hosts, ofArguments_eq_ok given read, rfl, fields _, fun _ => rfl, ?_,
      ?_⟩
    all_goals
      rw [null]
      rintro _ ⟨⟩
  · have read : joined (args.field "hosts") = .ok (.str text) := by rw [single]; rfl
    refine ⟨_, changed text, ofArguments_eq_ok given read, rfl, fields _, ?_, ?_, ?_⟩
    all_goals rw [single]
    · rintro ⟨⟩
    · rintro _ ⟨⟩
      rfl
    · rintro _ ⟨⟩
  · have read : joined (args.field "hosts") = .ok (.str (",".intercalate texts)) := by
      rw [several, joined, texts_map]
      rfl
    refine ⟨_, changed (",".intercalate texts), ofArguments_eq_ok given read, rfl, fields _, ?_,
      ?_, ?_⟩
    all_goals rw [several]
    · rintro ⟨⟩
    · rintro _ ⟨⟩
    · intro others same plain
      have texts : texts = others :=
        List.map_injective_iff.mpr (fun _ _ => Json.str.inj) (Json.arr.inj same)
      subst texts
      exact Settings.hostsOf_intercalate plain

theorem identified_of_overridden {args : Object} {shared settings : Settings} (given : Given args)
    (overridden : settings.Overridden args shared) (identified : shared.Identified) :
    settings.Identified := by
  have plain (f : SettingField) (other : f ≠ .hosts)
      (among : f.name ∈ ["username", "password", "api_key", "index_prefix"])
      (before : (f.of shared).IsTextOrNull) : (f.of settings).IsTextOrNull := by
    rw [overridden.fields f other]
    split
    · exact before
    · exact given.texts f.name among
  exact ⟨plain .username nofun (by decide) identified.username,
    plain .password nofun (by decide) identified.password,
    plain .apiKey nofun (by decide) identified.apiKey⟩

end Overrides

namespace Connection

/-- What a client is given that is created with the settings: their hosts, and a key or else a name
with a password, where they have one that is not empty. -/
structure Presents (settings : Settings) (parameters : Object) : Prop where
  hosts : parameters.get? "hosts" = some (.strings settings.hostList)
  apiKey : parameters.get? "api_key" = settings.apiKey.filledText?.map .str
  basicAuth : parameters.get? "basic_auth" =
    if settings.apiKey.filledText?.isSome then none
    else settings.username.filledText?.bind fun username =>
      settings.password.filledText?.map fun password => .arr [.str username, .str password]

theorem credentials_eq {settings : Settings} (identified : settings.Identified) :
    credentials settings =
      match settings.apiKey.filledText?, settings.username.filledText?,
        settings.password.filledText? with
      | some key, _, _ => [("api_key", .str key)]
      | none, some username, some password =>
          [("basic_auth", .arr [.str username, .str password])]
      | none, _, _ => [] := by
  rw [credentials]
  obtain ⟨keyless, none⟩ | ⟨keyed, key, some, apiKey⟩ := Json.filled_cases identified.apiKey
  · rw [keyless, none]
    obtain ⟨nameless, none⟩ | ⟨named, name, some, username⟩ :=
      Json.filled_cases identified.username
    · rw [nameless, none]
      rfl
    · rw [named, some, username]
      obtain ⟨open_, none⟩ | ⟨guarded, word, some, password⟩ :=
        Json.filled_cases identified.password
      · rw [open_, none]
        rfl
      · rw [guarded, some, password]
        rfl
  · rw [keyed, some, apiKey]
    rfl

theorem presents_clientParameters {settings : Settings} (identified : settings.Identified) :
    Presents settings (clientParameters settings) := by
  have kept {key : String} (other : key ∉ ["hosts", "verify_certs", "request_timeout",
      "max_retries", "retry_on_timeout"]) :
      (clientParameters settings).get? key = (credentials settings).get? key := by
    rw [clientParameters, Object.get?_append, Object.get?_eq_none.mpr other, Option.none_or]
  refine ⟨rfl, ?_, ?_⟩
  all_goals
    rw [kept (by decide), credentials_eq identified]
    cases settings.apiKey.filledText? <;> cases settings.username.filledText? <;>
      cases settings.password.filledText? <;> rfl

end Connection

end SearchRequest
