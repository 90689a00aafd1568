import SearchRequest.Proofs.Json.Entries
import SearchRequest.Result.Basic

/-!
Which answers make a result. An answer without the shape of one is refused as a whole. What is read
out of an answer of the right shape is converted unseen, so there the failure is that of the
conversion, or names the one hit instead of the answer.
-/

namespace SearchRequest

/-- A failure to convert a value, which does not say where the value is from. -/
def Failure.IsConversion (failure : Failure) : Prop :=
  ∃ fault, failure = .ofEntryFault fault

theorem isConversion_of_mapError {α : Type} {attempt : Except Json.EntryFault α} {failure : Failure}
    (failed : attempt.mapError Failure.ofEntryFault = .error failure) : failure.IsConversion := by
  cases attempt with
  | ok value => cases failed
  | error fault =>
    cases failed
    exact ⟨fault, rfl⟩

namespace Hit

def Readable (entry : Json) : Prop :=
  ∃ entries, entry = .obj entries ∧ (Object.field entries "_source").orEmpty.Spells

/-- What is wrong with a hit is said of the hit alone, or of its source alone. -/
def Strays (listed : List Json) (failure : Failure) : Prop :=
  failure.IsConversion ∨ ∃ entry ∈ listed, (∀ entries, entry ≠ .obj entries) ∧
    failure = .response (.badHit entry) (.plain entry)

theorem succeeds_ofJson (entry : Json) : Succeeds (ofJson entry) ↔ Readable entry := by
  unfold ofJson
  split
  · rename_i entries
    rw [succeeds_bind, Readable]
    simp only [succeeds_ok, and_true, Json.obj.injEq, exists_eq_left']
    exact Json.succeeds_asTable _
  · rename_i other
    refine iff_of_false (not_succeeds_error _) ?_
    rintro ⟨entries, same, _⟩
    exact other entries same

theorem strays_of_ofJson {entry : Json} {failure : Failure}
    (failed : ofJson entry = .error failure) : Strays [entry] failure := by
  unfold ofJson at failed
  split at failed
  · rename_i entries
    cases converted : (Object.field entries "_source").orEmpty.asTable with
    | ok source =>
      rw [converted] at failed
      cases failed
    | error fault =>
      rw [converted] at failed
      cases failed
      exact .inl (isConversion_of_mapError converted)
  · rename_i other
    cases failed
    exact .inr ⟨entry, List.mem_singleton_self _, other, rfl⟩

theorem Strays.mono {listed more : List Json} {failure : Failure} (strays : Strays listed failure)
    (among : ∀ entry ∈ listed, entry ∈ more) : Strays more failure := by
  rcases strays with conversion | ⟨entry, here, other, same⟩
  · exact .inl conversion
  · exact .inr ⟨entry, among entry here, other, same⟩

theorem succeeds_ofList (listed : List Json) :
    Succeeds (ofList listed) ↔ ∀ entry ∈ listed, Readable entry := by
  induction listed with
  | nil => exact iff_of_true (succeeds_ok _) nofun
  | cons entry rest ih =>
    rw [List.forall_mem_cons, ofList, succeeds_bind, ← ih, ← succeeds_ofJson]
    simp only [succeeds_bind, succeeds_ok, and_true]
    constructor
    · rintro ⟨hit, read, hits⟩
      exact ⟨⟨hit, read⟩, hits⟩
    · rintro ⟨⟨hit, read⟩, hits⟩
      exact ⟨hit, read, hits⟩

theorem strays_of_ofList {listed : List Json} {failure : Failure}
    (failed : ofList listed = .error failure) : Strays listed failure := by
  induction listed with
  | nil => cases failed
  | cons entry rest ih =>
    rw [ofList] at failed
    cases read : ofJson entry with
    | error fault =>
      rw [read] at failed
      cases failed
      refine (strays_of_ofJson read).mono fun other same => ?_
      rw [List.mem_singleton.mp same]
      exact List.mem_cons_self
    | ok hit =>
      cases others : ofList rest with
      | error fault =>
        rw [read, others] at failed
        cases failed
        exact (ih others).mono fun other among => List.mem_cons_of_mem _ among
      | ok hits =>
        rw [read, others] at failed
        cases failed

theorem length_ofList {listed : List Json} {hits : List Hit} (read : ofList listed = .ok hits) :
    hits.length = listed.length := by
  induction listed generalizing hits with
  | nil =>
    cases read
    rfl
  | cons entry rest ih =>
    obtain ⟨hit, _, onward⟩ := bind_eq_ok.mp read
    obtain ⟨more, others, same⟩ := bind_eq_ok.mp onward
    cases same
    exact congrArg (· + 1) (ih others)

end Hit

def Json.Totals (total : Json) (count : Nat) : Prop :=
  total = .int count ∨
    ∃ entries, total = .obj entries ∧ Object.get? entries "value" = some (.int count)

structure Shaped (answer : Json) (raw info : Object) (listed : List Json) (total : Nat) : Prop where
  isObject : answer = .obj raw
  hits : raw.field "hits" = .obj info
  list : info.field "hits" = .arr listed
  counted : (info.field "total").Totals total

namespace Result

theorem totalOf_eq_ok {total : Json} {count : Nat} :
    totalOf total = .ok count ↔ total.Totals count := by
  have natural (value : Json) : totalOf.natural value = .ok count ↔ value = .int count := by
    unfold totalOf.natural
    split
    · simp only [Int.ofNat_eq_natCast, Except.ok.injEq, Json.int.injEq, Int.ofNat_inj]
    · rename_i other
      exact ⟨nofun, fun same => absurd same (other count)⟩
  unfold totalOf Json.Totals
  split
  · rename_i entries
    simp only [reduceCtorEq, Json.obj.injEq, exists_eq_left', false_or]
    cases Object.get? entries "value" with
    | none => exact ⟨nofun, nofun⟩
    | some value => rw [natural, Option.some.injEq]
  · rename_i other
    rw [natural]
    exact ⟨.inl, fun same => same.resolve_right fun ⟨entries, object, _⟩ => other entries object⟩

theorem parts_eq_ok {answer : Json} {raw info : Object} {listed : List Json} :
    parts answer = .ok (raw, info, listed) ↔
      answer = .obj raw ∧ raw.field "hits" = .obj info ∧ info.has "total" = true ∧
        info.field "hits" = .arr listed := by
  constructor
  · intro taken
    unfold parts at taken
    split at taken
    · split at taken
      · rename_i found
        split at taken
        · cases taken
        · rename_i counted
          split at taken
          · rename_i list
            cases taken
            exact ⟨rfl, found, by simpa using counted, list⟩
          · cases taken
      · cases taken
    · cases taken
  · rintro ⟨rfl, hits, counted, list⟩
    simp only [parts, hits, counted, list, Bool.not_true, Bool.false_eq_true, if_false]

end Result

namespace Shaped

variable {answer : Json} {raw info : Object} {listed : List Json} {total : Nat}

theorem has_total (shaped : Shaped answer raw info listed total) : info.has "total" = true := by
  have counted := shaped.counted
  unfold Object.field at counted
  cases given : info.get? "total" with
  | some value => rw [Object.has, given, Option.isSome_some]
  | none =>
    rw [given] at counted
    rcases counted with same | ⟨entries, same, _⟩ <;> cases same

theorem parts_ok (shaped : Shaped answer raw info listed total) :
    Result.parts answer = .ok (raw, info, listed) :=
  Result.parts_eq_ok.mpr ⟨shaped.isObject, shaped.hits, shaped.has_total, shaped.list⟩

theorem of_parts (taken : Result.parts answer = .ok (raw, info, listed))
    (counted : Result.totalOf (info.field "total") = .ok total) :
    Shaped answer raw info listed total := by
  obtain ⟨isObject, hits, _, list⟩ := Result.parts_eq_ok.mp taken
  exact ⟨isObject, hits, list, Result.totalOf_eq_ok.mp counted⟩

end Shaped

/-- What a result takes out of an answer converts: the aggregations, and every hit. -/
def Converts (raw : Object) (listed : List Json) : Prop :=
  (raw.field "aggregations").orEmpty.Spells ∧ ∀ entry ∈ listed, Hit.Readable entry

namespace Payload

/-- The answer makes a result, or is refused as a whole. -/
def Judged (answer : Payload) : Prop :=
  Succeeds (Result.ofPayload answer) ∨
    ∃ fault, Result.ofPayload answer = .error (.response fault answer)

variable {answer : Payload} {raw info : Object} {listed : List Json} {total : Nat}

theorem ofPayload_of_shaped (shaped : Shaped answer.body raw info listed total) :
    Result.ofPayload answer = (do
      let aggregations ← (raw.field "aggregations").orEmpty.asTable
      let hits ← Hit.ofList listed
      .ok ⟨⟨total, info.field "max_score", raw.field "took", aggregations, raw⟩,
        hits.map .hit⟩) := by
  unfold Result.ofPayload
  rw [shaped.parts_ok]
  change ((Result.totalOf (info.field "total")).mapError _ >>= _) = _
  rw [Result.totalOf_eq_ok.mpr shaped.counted]
  rfl

theorem refused_of_unshaped
    (unshaped : ¬ ∃ raw info listed total, Shaped answer.body raw info listed total) :
    ∃ fault, Result.ofPayload answer = .error (.response fault answer) := by
  unfold Result.ofPayload
  cases taken : Result.parts answer.body with
  | error fault => exact ⟨fault, rfl⟩
  | ok found =>
    obtain ⟨raw, info, listed⟩ := found
    cases counted : Result.totalOf (info.field "total") with
    | error fault =>
      refine ⟨fault, ?_⟩
      change ((Result.totalOf (info.field "total")).mapError _ >>= _) = _
      rw [counted]
      rfl
    | ok total => exact absurd ⟨raw, info, listed, total, .of_parts taken counted⟩ unshaped

theorem succeeds_of_shaped (shaped : Shaped answer.body raw info listed total)
    (converts : Converts raw listed) :
    ∃ result, Result.ofPayload answer = .ok result ∧ result.summary.totalHits = total ∧
      result.summary.raw = raw ∧ result.hits.length = listed.length := by
  obtain ⟨aggregations, converted⟩ := (Json.succeeds_asTable _).mpr converts.1
  obtain ⟨hits, read⟩ := (Hit.succeeds_ofList listed).mpr converts.2
  refine ⟨⟨⟨total, info.field "max_score", raw.field "took", aggregations, raw⟩, hits.map .hit⟩,
    ?_, rfl, rfl, ?_⟩
  · rw [ofPayload_of_shaped shaped, converted, bind_ok, read, bind_ok]
  · rw [List.length_map, Hit.length_ofList read]

theorem strays_of_shaped (shaped : Shaped answer.body raw info listed total)
    (stuck : ¬ Converts raw listed) :
    ∃ failure, Result.ofPayload answer = .error failure ∧ Hit.Strays listed failure := by
  -- The aggregations are converted first, so their failure hides those of the hits.
  rw [ofPayload_of_shaped shaped]
  cases converted : (raw.field "aggregations").orEmpty.asTable with
  | error failure => exact ⟨failure, rfl, .inl (isConversion_of_mapError converted)⟩
  | ok aggregations =>
    cases read : Hit.ofList listed with
    | error failure => exact ⟨failure, rfl, Hit.strays_of_ofList read⟩
    | ok hits =>
      have spells := (Json.succeeds_asTable _).mp ⟨aggregations, converted⟩
      exact absurd ⟨spells, (Hit.succeeds_ofList listed).mp ⟨hits, read⟩⟩ stuck

theorem ne_response_of_strays (shaped : Shaped answer.body raw info listed total)
    {failure : Failure} (strays : Hit.Strays listed failure) (fault : ResponseFault) :
    failure ≠ .response fault answer := by
  rintro rfl
  rcases strays with ⟨conversion, same⟩ | ⟨entry, _, other, same⟩
  · cases conversion <;> cases same
  · cases same
    exact other raw shaped.isObject

theorem converts_of_judged (shaped : Shaped answer.body raw info listed total)
    (judged : answer.Judged) : Converts raw listed := by
  refine Classical.byContradiction fun stuck => ?_
  obtain ⟨failure, failed, strays⟩ := strays_of_shaped shaped stuck
  rcases judged with ⟨result, made⟩ | ⟨fault, refused⟩
  · cases failed.symm.trans made
  · have same : failure = .response fault answer := Except.error.inj (failed.symm.trans refused)
    exact ne_response_of_strays shaped strays fault same

/-- An answer makes a result or is refused as a whole, unless it has the right shape and what is
taken out of it does not convert. Then the failure is one of conversion, or carries a hit alone. -/
theorem judged_iff (answer : Payload) :
    (answer.Judged ↔ ∀ raw info listed total, Shaped answer.body raw info listed total →
      Converts raw listed) ∧
    (Succeeds (Result.ofPayload answer) ↔ ∃ raw info listed total,
      Shaped answer.body raw info listed total ∧ Converts raw listed) ∧
    (¬ answer.Judged → ∃ raw info listed total failure, Shaped answer.body raw info listed total ∧
      Result.ofPayload answer = .error failure ∧ Hit.Strays listed failure) := by
  have succeeds {raw info : Object} {listed : List Json} {total : Nat}
      (shaped : Shaped answer.body raw info listed total) (converts : Converts raw listed) :
      Succeeds (Result.ofPayload answer) := by
    obtain ⟨result, made, _⟩ := succeeds_of_shaped shaped converts
    exact ⟨result, made⟩
  by_cases shape : ∃ raw info listed total, Shaped answer.body raw info listed total
  · obtain ⟨raw, info, listed, total, shaped⟩ := shape
    refine ⟨⟨?_, ?_⟩, ⟨?_, ?_⟩, ?_⟩
    · intro judged _ _ _ _ other
      exact converts_of_judged other judged
    · intro all
      exact .inl (succeeds shaped (all _ _ _ _ shaped))
    · intro made
      exact ⟨raw, info, listed, total, shaped, converts_of_judged shaped (.inl made)⟩
    · rintro ⟨_, _, _, _, other, converts⟩
      exact succeeds other converts
    · intro unjudged
      have stuck : ¬ Converts raw listed := fun converts =>
        unjudged (.inl (succeeds shaped converts))
      obtain ⟨failure, failed, strays⟩ := strays_of_shaped shaped stuck
      exact ⟨raw, info, listed, total, failure, shaped, failed, strays⟩
  -- Nothing is converted before the shape is known, so here the answer itself is refused.
  · obtain ⟨fault, refused⟩ := refused_of_unshaped shape
    have judged : answer.Judged := .inr ⟨fault, refused⟩
    have lost : ¬ Succeeds (Result.ofPayload answer) := by
      rw [refused]
      exact not_succeeds_error _
    refine ⟨iff_of_true judged ?_, iff_of_false lost ?_, absurd judged⟩
    · intro raw info listed total shaped
      exact absurd ⟨raw, info, listed, total, shaped⟩ shape
    · rintro ⟨raw, info, listed, total, shaped, _⟩
      exact shape ⟨raw, info, listed, total, shaped⟩

def answering (hits : List Json) (aggregations : Json) : Payload :=
  .plain (.obj [("hits", .obj [("total", .int 1), ("hits", .arr hits)]),
    ("aggregations", aggregations)])

/-- The failure carries a hit that is a text without the answer; a number in the place of a source
and a text in that of the aggregations fail to convert. -/
theorem not_judged_part :
    ¬ (answering [.str "x"] .null).Judged ∧
      ¬ (answering [.obj [("_source", .int 5)]] .null).Judged ∧
      ¬ (answering [] (.str "abc")).Judged := by
  refine ⟨?_, ?_, ?_⟩ <;>
    rintro (⟨result, made⟩ | ⟨fault, refused⟩)
  · cases made
  · cases refused
  · cases made
  · cases refused
  · cases made
  · cases refused

end Payload

end SearchRequest
