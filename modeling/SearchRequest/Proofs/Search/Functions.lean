import SearchRequest.Proofs.Arguments
import SearchRequest.Proofs.Json.Entries
import SearchRequest.Search.Scoring

/-!
What the functions of a scoring are. The entries of each kind of function are spelled out from the
arguments by their names, and a draft that is accepted has just these and the weight that was given.
-/

namespace SearchRequest

namespace ScoreKind

/-- An argument, or what it is when it is not given. -/
def argument (args : Object) (name : String) (fallback : Json) : Json :=
  (args.get? name).getD fallback

def unlessNull (args : Object) (name : String) : Object :=
  if args.field name = .null then [] else [(name, args.field name)]

/-- The entries of a function itself, as its arguments say them. -/
def Specifies (args spec : Object) : ScoreKind → Prop
  | .fieldValueFactor => spec = [("field_value_factor", .obj
      ([("field", args.field "field"), ("factor", argument args "factor" (.float .one)),
        ("modifier", argument args "modifier" (.str "none"))] ++ unlessNull args "missing"))]
  | .decay => ∃ type field function options, args.field "type_" = .str type ∧
      args.field "field" = .str field ∧ (args.field "function").Counts function ∧
      (args.field "options").orEmpty = .obj options ∧
      spec = [(type, .obj (Object.merge [(field, .obj (Json.ofTable function))] options))]
  | .weight => spec = []
  | .randomScore =>
      spec = [("random_score", .obj (unlessNull args "seed" ++ unlessNull args "field"))]
  | .scriptScore => ∃ params options, (args.field "params").Counts params ∧
      (args.field "options").Counts options ∧
      spec = [("script_score", Object.only "script" (.obj (Object.merge
        ([("lang", argument args "lang" (.str "painless")), ("source", args.field "source")] ++
          if (args.field "params").truthy then [("params", .obj (Json.ofTable params))] else [])
        (Json.ofTable options))))]
  | .raw => ∃ function, (args.field "function").Counts function ∧ spec = Json.ofTable function

end ScoreKind

theorem Json.eq_str_of_isAmong {value : Json} {choices : List String}
    (known : value.isAmong choices = .ok true) : ∃ text, value = .str text := by
  unfold isAmong at known
  cases value with
  | str text => exact ⟨text, rfl⟩
  | _ => simp [isScalar] at known

theorem Json.orEmpty_eq_obj {value : Json} {entries : Object}
    (read : value.orEmpty.asObject = .ok entries) : value.orEmpty = .obj entries := by
  cases empty : value.orEmpty <;> rw [empty] at read <;> cases read
  rfl

namespace ScoreKind

theorem eq_str_of_textIn {fault : ArgumentFault} {value : Json} {text : String}
    (read : textIn fault value = .ok text) : value = .str text := by
  unfold textIn at read
  split at read
  · split at read <;> cases read
    rfl
  · cases read

variable {args a spec : Object}

theorem given_cons_argument (args : Object) (name : String) (rest : Object) :
    Object.given ((name, args.field name) :: rest) =
      unlessNull args name ++ Object.given rest := by
  by_cases null : args.field name = .null <;>
    simp [Object.given_cons, unlessNull, null, Json.isNull_iff]

theorem specifies_factor (bound : (signature .fieldValueFactor).bind args = .ok a)
    (made : factorSpec a = .ok spec) : fieldValueFactor.Specifies args spec := by
  obtain ⟨field, named, further⟩ := bind_eq_ok.mp made
  obtain ⟨known, _, accepted⟩ := bind_eq_ok.mp further
  cases known with
  | false => cases accepted
  | true =>
    cases accepted
    have argued : .str field = args.field "field" := by
      rw [← eq_str_of_textIn named]
      exact Signature.argument_of_bind bound "field" rfl rfl
    have factor : a.field "factor" = argument args "factor" (.float .one) :=
      Signature.field_of_bind bound "factor" rfl
    have modifier : a.field "modifier" = argument args "modifier" (.str "none") :=
      Signature.field_of_bind bound "modifier" rfl
    have missing : a.field "missing" = args.field "missing" :=
      Signature.argument_of_bind bound "missing" rfl rfl
    rw [Specifies, argued, factor, modifier, missing, given_cons_argument, Object.given,
      List.filter_nil, List.append_nil]

theorem specifies_decay (bound : (signature .decay).bind args = .ok a)
    (made : decaySpec a = .ok spec) : decay.Specifies args spec := by
  have argued {name : String} (sets : (signature .decay).parameters.find?
      (fun p => name == p.field) = some ⟨name, name, some .null⟩) :
      a.field name = args.field name := Signature.argument_of_bind bound name sets rfl
  have required {name : String} (sets : (signature .decay).parameters.find?
      (fun p => name == p.field) = some ⟨name, name, none⟩) :
      a.field name = args.field name := Signature.argument_of_bind bound name sets rfl
  obtain ⟨known, among, further⟩ := bind_eq_ok.mp made
  cases known with
  | false => cases further
  | true =>
    obtain ⟨type, typed⟩ := Json.eq_str_of_isAmong among
    obtain ⟨field, named, further⟩ := bind_eq_ok.mp further
    obtain ⟨scaled, _, further⟩ := bind_eq_ok.mp further
    cases scaled with
    | false => cases further
    | true =>
      obtain ⟨own, read, further⟩ := bind_eq_ok.mp further
      obtain ⟨options, extra, same⟩ := bind_eq_ok.mp further
      cases same
      obtain ⟨function, counts, rfl⟩ := Json.counts_of_asEntries read
      refine ⟨type, field, function, options, ?_, ?_, ?_, ?_, ?_⟩
      · rw [← required rfl, typed]
      · rw [← required rfl, eq_str_of_textIn named]
      · rwa [← required rfl]
      · rw [← argued rfl, Json.orEmpty_eq_obj extra]
      · rw [typed]
        rfl

theorem specifies_random (bound : (signature .randomScore).bind args = .ok a)
    (made : randomSpec a = .ok spec) : randomScore.Specifies args spec := by
  have seed : a.field "seed" = args.field "seed" :=
    Signature.argument_of_bind bound "seed" rfl rfl
  have field : a.field "field" = args.field "field" :=
    Signature.argument_of_bind bound "field" rfl rfl
  unfold randomSpec at made
  split at made <;> cases made
  rw [Specifies, seed, field, given_cons_argument, given_cons_argument, Object.given,
    List.filter_nil, List.append_nil]

theorem specifies_script (bound : (signature .scriptScore).bind args = .ok a)
    (made : scriptSpec a = .ok spec) : scriptScore.Specifies args spec := by
  have lang : a.field "lang" = argument args "lang" (.str "painless") :=
    Signature.field_of_bind bound "lang" rfl
  have source : a.field "source" = args.field "source" :=
    Signature.argument_of_bind bound "source" rfl rfl
  have params : a.field "params" = args.field "params" :=
    Signature.argument_of_bind bound "params" rfl rfl
  have options : a.field "options" = args.field "options" :=
    Signature.argument_of_bind bound "options" rfl rfl
  obtain ⟨text, named, further⟩ := bind_eq_ok.mp made
  -- What follows the parameters is done alike whether there are any or not.
  have written : ∃ table entries, (args.field "params").Counts table ∧
      (a.field "options").orEmpty.asEntries = .ok entries ∧
      spec = [("script_score", Object.only "script" (.obj (Object.merge
        ([("lang", a.field "lang"), ("source", .str text)] ++
          if (args.field "params").truthy then [("params", .obj (Json.ofTable table))] else [])
        entries)))] := by
    rw [← params]
    dsimp only at further
    split at further
    · rename_i full
      obtain ⟨_, given, further⟩ := bind_eq_ok.mp further
      obtain ⟨own, readParams, same⟩ := map_eq_ok.mp given
      obtain ⟨entries, readOptions, written⟩ := bind_eq_ok.mp further
      obtain ⟨table, counts, rfl⟩ := Json.counts_of_asEntries readParams
      cases same
      cases written
      exact ⟨table, entries, counts, readOptions, by rw [if_pos full]⟩
    · rename_i empty
      obtain ⟨_, same, further⟩ := bind_eq_ok.mp further
      obtain ⟨entries, readOptions, written⟩ := bind_eq_ok.mp further
      cases same
      cases written
      exact ⟨[], entries, by rw [Json.Counts, if_neg empty], readOptions, by rw [if_neg empty]⟩
  obtain ⟨table, entries, counts, readOptions, rfl⟩ := written
  obtain ⟨extra, countsOptions, rfl⟩ := Json.counts_of_asEntries readOptions
  rw [options] at countsOptions
  refine ⟨table, extra, counts, Json.counts_orEmpty countsOptions, ?_⟩
  rw [lang, ← source, eq_str_of_textIn named]

theorem specifies_of_spec {kind : ScoreKind}
    (bound : kind.signature.bind args = .ok a) (made : kind.spec a = .ok spec) :
    kind.Specifies args spec := by
  cases kind with
  | fieldValueFactor => exact specifies_factor bound made
  | decay => exact specifies_decay bound made
  | weight =>
    change (if (a.field "weight").isNumber then .ok [] else refuse .weight) = .ok spec at made
    split at made <;> cases made
    rfl
  | randomScore => exact specifies_random bound made
  | scriptScore => exact specifies_script bound made
  | raw =>
    have function : a.field "function" = args.field "function" :=
      Signature.argument_of_bind bound "function" rfl rfl
    obtain ⟨table, counts, same⟩ := Json.counts_of_asEntries made
    exact ⟨table, function ▸ counts, same⟩

end ScoreKind

namespace ScoreDraft

theorem weight_of_ok {kind : ScoreKind} {args : Object} {draft : ScoreDraft}
    (drafted : of kind args = .ok draft) : draft.weight = args.field "weight" := by
  obtain ⟨a, bound, further⟩ := bind_eq_ok.mp drafted
  obtain ⟨spec, _, same⟩ := bind_eq_ok.mp further
  cases same
  change a.field "weight" = args.field "weight"
  cases kind with
  | raw =>
    have absent : "weight" ∉ args.keys := fun listed =>
      absurd (Signature.knows_of_bind rfl bound "weight" listed) (by decide)
    rw [Object.field_of_absent absent, Signature.fields_of_bind bound]
    rfl
  | _ => exact Signature.argument_of_bind bound "weight" rfl rfl

theorem specifies_of_ok {kind : ScoreKind} {args : Object} {draft : ScoreDraft}
    (drafted : of kind args = .ok draft) : kind.Specifies args draft.spec := by
  obtain ⟨a, bound, further⟩ := bind_eq_ok.mp drafted
  obtain ⟨spec, made, same⟩ := bind_eq_ok.mp further
  cases same
  exact ScoreKind.specifies_of_spec bound made

end ScoreDraft

end SearchRequest
