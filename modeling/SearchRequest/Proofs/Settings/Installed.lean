import SearchRequest.Proofs.Json.Merge
import SearchRequest.Proofs.Settings.Conversion
import SearchRequest.Settings.Installed.Library

/-!
The library that is installed does what is assumed of one, on any machine that reads numbers of
eighteen digits.
-/

namespace SearchRequest.SettingsLibrary

theorem picks_firstNamed {α : Type} {fits : String → String → Prop}
    (loose : ∀ {given name : String}, Text.lowered name = name → fits given name →
      Text.lowered given = name) : Picks fits (firstNamed? (α := α)) where
  found small := by
    rintro ⟨entry, listed, fit⟩
    rw [firstNamed?, Option.isSome_map, List.find?_isSome]
    exact ⟨entry, listed, beq_iff_eq.mpr (loose small fit)⟩
  among picked := by
    obtain ⟨entry, found, same⟩ := Option.map_eq_some_iff.mp picked
    exact ⟨entry, List.mem_of_find?_eq_some found, by simpa using List.find?_some found, same⟩
  alone entries name := by
    rw [firstNamed?, List.find?_filter, firstNamed?]
    simp only [and_self, Bool.decide_eq_true]

theorem picks_reverse {α : Type} {fits : String → String → Prop}
    {pick : List (String × α) → String → Option α} (picks : Picks fits pick) :
    Picks fits fun entries => pick entries.reverse where
  found small := by
    rintro ⟨entry, listed, fit⟩
    exact picks.found small ⟨entry, List.mem_reverse.mpr listed, fit⟩
  among picked := by
    obtain ⟨entry, listed, named⟩ := picks.among picked
    exact ⟨entry, List.mem_reverse.mp listed, named⟩
  alone entries name := by
    rw [← List.filter_reverse]
    exact picks.alone entries.reverse name

section Plain

variable {given : Object} (plain : IsPlain given)

include plain

theorem field_of_isPlain (name : String) (own : name.toList.head? = some '_') :
    given.field name = .null :=
  Object.field_of_absent fun listed => plain name listed own

theorem options_of_isPlain {config : SettingsConfig} (inexact : config.exactCase = false) :
    SourceOptions.ofArguments config given =
      .ok ⟨some config.lead, false, false, .null, false⟩ := by
  have unnamed : given.has SourceOptions.ownName = false :=
    Object.has_eq_false.mpr fun listed => plain _ listed (by decide)
  have null := field_of_isPlain plain
  have exact : SourceOptions.isExactCase config.exactCase .null = false := inexact
  rw [SourceOptions.ofArguments, unnamed]
  simp only [null "_env_nested_max_split" (by decide), null "_env_prefix" (by decide),
    null "_env_prefix_target" (by decide), null "_case_sensitive" (by decide),
    null "_env_ignore_empty" (by decide), null "_env_parse_none_str" (by decide),
    null "_env_parse_enums" (by decide), exact]
  rfl

theorem handedOn_eq (m : Machine) {config : SettingsConfig} (files : FileSystem) (env : Variables)
    (caseless : IsCaseless config) :
    ∃ second, handedOn m config files env given =
        .ok ⟨.ok (entriesFor config given), .ok second, .ok [], .ok []⟩ ∧
      ∀ field ∈ config.fields, second.get? field =
        (firstNamed? env.reverse (config.lead ++ field)).map .str := by
  let options : SourceOptions := ⟨some config.lead, false, false, .null, false⟩
  refine ⟨config.fields.filterMap fun field =>
    (options.value? env config.lead field).map (field, ·), ?_, ?_⟩
  · rw [handedOn, options_of_isPlain plain caseless.inexact, bind_ok,
      field_of_isPlain plain "_env_file" (by decide),
      field_of_isPlain plain "_secrets_dir" (by decide)]
    rfl
  · intro field listed
    rw [Object.get?_filterMap, if_pos listed, firstNamed?, Option.map_map, Option.map_eq_bind]
    change (env.reverse.find? fun entry =>
      Text.lowered entry.1 == Text.lowered (config.lead ++ field)).bind _ = _
    rw [caseless.small field listed]
    rfl

theorem mergedFrom_eq (config : SettingsConfig) (read : List Object) :
    mergedFrom config given (read.map .ok) = .ok read.flatten := by
  have all : (read.map Except.ok).mapM (m := Except Failure) id = .ok read := by
    induction read with
    | nil => rfl
    | cons first rest ih =>
      rw [List.map_cons, List.mapM_cons, ih]
      rfl
  rw [mergedFrom, field_of_isPlain plain "_cli_parse_args" (by decide)]
  change ((read.map Except.ok).mapM id >>= fun read => Except.ok ([] ++ read.flatten)) = _
  rw [all]
  rfl

end Plain

theorem collects_installed (m : Machine) : (installed m).Collects where
  entryFor := picks_firstNamed fun small same => same ▸ small
  variableFor := picks_reverse (picks_firstNamed fun _ same => same)
  handed files env _ caseless plain := by
    obtain ⟨second, handed, named⟩ := handedOn_eq plain m files env caseless
    refine ⟨_, second, handed, fun field listed => ⟨?_, named field listed⟩⟩
    rw [entriesFor, Object.get?_filterMap, if_pos listed]
    rfl
  merged config _ read plain :=
    ⟨read.flatten, mergedFrom_eq plain config read, fun field _ => Object.get?_flatten read field⟩

theorem converts_installed {m : Machine} (short : 18 ≤ m.wholeLength) : (installed m).Converts where
  text := Conversion.text_eq_ok
  optionalText := Conversion.optionalText_eq_ok
  flag := Conversion.flag_eq_ok
  number := Conversion.number_of_isNumber
  noNumber := Conversion.not_succeeds_number
  whole := Conversion.whole_of_isWhole short
  noWhole := Conversion.not_succeeds_whole
  literal := Conversion.choice_eq_ok
  member := Conversion.choice_eq_ok

theorem lawful_installed {m : Machine} (short : 18 ≤ m.wholeLength) : (installed m).Lawful where
  toCollects := collects_installed m
  toConverts := converts_installed short

end SearchRequest.SettingsLibrary
