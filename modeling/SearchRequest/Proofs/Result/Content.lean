import SearchRequest.Proofs.Result.Shape
import SearchRequest.Proofs.Result.Sharing

/-!
What a result keeps of the answer that it is read from: the total, and a hit for each of the listed
hits with everything that is told of it. Whatever is done to the list of hits later, the sources are
those of the hits that are still in it.
-/

namespace SearchRequest

namespace Json

/-- What an answer consists of. The total is there, and is told by a natural number or by an object
with one as its value; every listed hit is an object; and the aggregations and all sources count
as objects. -/
structure Answers (answer : Json) (raw info : Object) (listed : List Object) (total : Nat) :
    Prop where
  isObject : answer = .obj raw
  hits : raw.field "hits" = .obj info
  total : ∃ value, info.get? "total" = some value ∧ value.Totals total
  list : info.field "hits" = .arr (listed.map .obj)
  aggregations : ∃ entries, (raw.field "aggregations").Counts entries
  sources : ∀ hit ∈ listed, ∃ source, (hit.field "_source").Counts source

theorem totals_field {info : Object} {key : String} {total : Nat} :
    (info.field key).Totals total ↔ ∃ value, info.get? key = some value ∧ value.Totals total := by
  unfold Object.field
  cases info.get? key with
  | some value => simp [ofOption]
  | none => simp [ofOption, Totals]

theorem readable_iff {entries : List Json} :
    (∀ entry ∈ entries, Hit.Readable entry) ↔ ∃ listed : List Object,
      entries = listed.map .obj ∧
        ∀ hit ∈ listed, ∃ source, (hit.field "_source").Counts source := by
  simp only [← spells_orEmpty]
  induction entries with
  | nil => exact iff_of_true nofun ⟨[], rfl, nofun⟩
  | cons entry rest ih =>
    rw [List.forall_mem_cons, ih]
    constructor
    · rintro ⟨⟨hit, rfl, spells⟩, listed, rfl, others⟩
      exact ⟨hit :: listed, rfl, List.forall_mem_cons.mpr ⟨spells, others⟩⟩
    · rintro ⟨listed, same, all⟩
      cases listed with
      | nil => cases same
      | cons hit others =>
        cases same
        obtain ⟨spells, more⟩ := List.forall_mem_cons.mp all
        exact ⟨⟨hit, rfl, spells⟩, others, rfl, more⟩

theorem answers_iff {answer : Json} {raw info : Object} {total : Nat} :
    (∃ entries, Shaped answer raw info entries total ∧ Converts raw entries) ↔
      ∃ listed, answer.Answers raw info listed total := by
  constructor
  · rintro ⟨entries, shaped, aggregations, readable⟩
    obtain ⟨listed, rfl, sources⟩ := readable_iff.mp readable
    exact ⟨listed, shaped.isObject, shaped.hits, totals_field.mp shaped.counted, shaped.list,
      (spells_orEmpty _).mp aggregations, sources⟩
  · rintro ⟨listed, answers⟩
    have shaped : Shaped answer raw info (listed.map .obj) total :=
      ⟨answers.isObject, answers.hits, answers.list, totals_field.mpr answers.total⟩
    exact ⟨_, shaped, (spells_orEmpty _).mpr answers.aggregations,
      readable_iff.mpr ⟨listed, rfl, answers.sources⟩⟩

end Json

namespace Hit

/-- The hit has what an entry of the list of hits tells. -/
structure Tells (entry : Object) (hit : Hit) : Prop where
  id : hit.id = entry.field "_id"
  score : hit.score = entry.field "_score"
  highlight : hit.highlight = entry.field "highlight"
  index : hit.index = entry.field "_index"
  sort : hit.sort = entry.field "sort"
  source : (entry.field "_source").Counts hit.source

theorem tells_of_ofJson {entry : Object} {hit : Hit} (read : ofJson (.obj entry) = .ok hit) :
    Tells entry hit := by
  obtain ⟨source, converted, same⟩ := bind_eq_ok.mp read
  cases same
  exact ⟨rfl, rfl, rfl, rfl, rfl, Json.counts_orEmpty (Json.counts_of_asTable converted)⟩

theorem tells_of_ofList {listed : List Object} {hits : List Hit}
    (read : ofList (listed.map .obj) = .ok hits) : List.Forall₂ Tells listed hits := by
  induction listed generalizing hits with
  | nil =>
    cases read
    exact .nil
  | cons entry rest ih =>
    obtain ⟨hit, first, onward⟩ := bind_eq_ok.mp read
    obtain ⟨more, others, same⟩ := bind_eq_ok.mp onward
    cases same
    exact .cons (tells_of_ofJson first) (ih others)

end Hit

namespace Item

def hit? : Item → Option Hit
  | .hit found => some found
  | .value _ => none

def hits (items : List Item) : List Hit := items.filterMap hit?

theorem sources_eq (items : List Item) : sources items = (hits items).map (·.source) := by
  rw [sources, hits, List.map_filterMap]
  refine List.filterMap_congr fun item _ => ?_
  cases item <;> rfl

theorem hits_map_hit (found : List Hit) : hits (found.map .hit) = found := by
  induction found with
  | nil => rfl
  | cons hit rest ih => exact congrArg (hit :: ·) ih

theorem hits_map_value (values : List Json) : hits (values.map .value) = [] := by
  induction values with
  | nil => rfl
  | cons value rest ih => exact ih

theorem hits_set_value (items : List Item) (place : Nat) (value : Json) :
    (hits (items.set place (.value value))).Sublist (hits items) := by
  induction items generalizing place with
  | nil => exact .slnil
  | cons item rest ih =>
    cases place with
    | zero =>
      exact (List.sublist_cons_self item rest).filterMap hit?
    | succ place =>
      cases item with
      | hit found => exact (ih place).cons_cons found
      | value other => exact ih place

end Item

theorem ListEdit.hits_run {edit : ListEdit} {items after : List Item} {answer : Option Item}
    (ran : edit.run items = .ok (after, answer)) :
    (Item.hits after).Sublist (Item.hits items) := by
  cases edit with
  | append value =>
    cases ran
    rw [Item.hits, List.filterMap_append]
    simp [Item.hit?, Item.hits]
  | pop =>
    rw [run] at ran
    cases last : items.getLast? with
    | none =>
      rw [last] at ran
      cases ran
    | some item =>
      rw [last] at ran
      cases ran
      exact (List.dropLast_sublist items).filterMap _
  | put place value =>
    obtain ⟨number, _, same⟩ := bind_eq_ok.mp ran
    cases same
    exact Item.hits_set_value items number value
  | clear =>
    cases ran
    exact List.nil_sublist _

namespace Board

variable {b after : Board}

/-- None of the lists that were made has other hits, or has them in another order. -/
def Within (b : Board) (hits : List Hit) : Prop :=
  ∀ items ∈ b.cells, (Item.hits items).Sublist hits

theorem Within.cell {hits : List Hit} (within : b.Within hits) (number : Nat) :
    (Item.hits (b.cell number)).Sublist hits := by
  unfold Board.cell
  cases made : b.cells[number]? with
  | none => exact List.nil_sublist _
  | some items => exact within items (List.mem_of_getElem? made)

theorem Within.of_moves {hits : List Hit} {step : BoardStep} {answer : Option Item}
    (within : b.Within hits) (moves : b.Moves step after answer) : after.Within hits := by
  have copied (values : List Json) :
      ∀ items ∈ b.cells ++ [values.map Item.value], (Item.hits items).Sublist hits := by
    intro items made
    rcases List.mem_append.mp made with old | new
    · exact within items old
    · rw [List.mem_singleton.mp new, Item.hits_map_value]
      exact List.nil_sublist _
  cases moves with
  | made name read => exact copied _
  | copied replaces read => exact copied _
  | edited found ran =>
    intro items made
    rcases List.mem_or_eq_of_mem_set made with old | rfl
    · exact within items old
    · exact (ListEdit.hits_run ran).trans (within.cell _)
  | _ => exact within

theorem within_final (result : Result) (steps : List BoardStep) :
    ((ofResult result).final steps).Within (Item.hits result.hits) := by
  refine ((sound_ofResult result).final_invariant (P := (·.Within _)) ?_ ?_).2
  · intro step _ b sound within
    cases done : b.step step with
    | mk ran after =>
      cases ran with
      | error failure =>
        rw [(step_eq_error.mp done).2]
        exact within
      | ok answer => exact within.of_moves (sound.moves done)
  · refine List.forall_mem_cons.mpr ⟨List.Sublist.refl _, List.forall_mem_singleton.mpr ?_⟩
    rw [Item.hits_map_value]
    exact List.nil_sublist _

/-- What takes the place of the hits: a list that a caller has with all that is in it, or what
another value has as elements. -/
def Offers (b : Board) : Replacement → List Item → Prop
  | .list name, items => b.seen (.list name) = .ok items
  | .value value, items => ∃ values, value.asElements = .ok values ∧ items = values.map .value

theorem Sound.offers_of_replaced (sound : b.Sound) {step : BoardStep} {view : Handle}
    {source : Replacement} {answer : Option Item}
    (replaces : step.replacement? = some (view, source))
    (done : b.step step = (.ok answer, after)) : b.Offers source after.hits := by
  cases sound.moves done with
  | @linked _ _ name number linked found =>
    rw [linked] at replaces
    cases replaces
    change b.seen (.list name) =
      .ok ((b.hold b.slot number).cell ((b.hold b.slot number).held b.slot))
    rw [held_hold sound.slot, seen, cellOf, found]
    rfl
  | @copied _ _ value items copied read =>
    rw [copied] at replaces
    cases replaces
    refine ⟨items, read, ?_⟩
    change (hold { b with cells := _ } b.slot b.cells.length).cell
      ((hold { b with cells := _ } b.slot b.cells.length).held b.slot) = _
    rw [held_hold (by exact sound.slot)]
    exact (cell_append b _ _).trans (if_pos rfl)
  | _ => cases replaces

end Board

namespace Payload

theorem tells_of_ofPayload {answer : Payload} {result : Result} {raw info : Object}
    {listed : List Object} {total : Nat} (answers : answer.body.Answers raw info listed total)
    (made : Result.ofPayload answer = .ok result) :
    ∃ hits, result.summary.totalHits = total ∧ result.hits = hits.map .hit ∧
      List.Forall₂ Hit.Tells listed hits := by
  have shaped : Shaped answer.body raw info (listed.map .obj) total :=
    ⟨answers.isObject, answers.hits, answers.list, Json.totals_field.mpr answers.total⟩
  rw [ofPayload_of_shaped shaped] at made
  obtain ⟨aggregations, _, onward⟩ := bind_eq_ok.mp made
  obtain ⟨hits, read, same⟩ := bind_eq_ok.mp onward
  cases same
  exact ⟨hits, rfl, rfl, Hit.tells_of_ofList read⟩

theorem succeeds_iff_answers (answer : Payload) :
    Succeeds (Result.ofPayload answer) ↔
      ∃ raw info listed total, answer.body.Answers raw info listed total := by
  constructor
  · intro made
    by_cases shape : ∃ raw info entries total, Shaped answer.body raw info entries total
    · obtain ⟨raw, info, entries, total, shaped⟩ := shape
      have converts := converts_of_judged shaped (.inl made)
      obtain ⟨listed, answers⟩ := Json.answers_iff.mp ⟨entries, shaped, converts⟩
      exact ⟨raw, info, listed, total, answers⟩
    · obtain ⟨fault, refused⟩ := refused_of_unshaped shape
      rw [refused] at made
      exact absurd made (not_succeeds_error _)
  · rintro ⟨raw, info, listed, total, answers⟩
    obtain ⟨entries, shaped, converts⟩ := Json.answers_iff.mpr ⟨listed, answers⟩
    obtain ⟨result, made, _⟩ := succeeds_of_shaped shaped converts
    exact ⟨result, made⟩

/-- An answer makes a result exactly when it consists of what an answer should. The result then has
its total and one hit for each that is listed, in their order and with what they tell. After any
steps over the result, and after any list has taken the place of its hits, the sources are those of
the hits that are in the list then. -/
theorem result_iff (answer : Payload) :
    (Succeeds (Result.ofPayload answer) ↔
      ∃ raw info listed total, answer.body.Answers raw info listed total) ∧
    (∀ result raw info listed total, Result.ofPayload answer = .ok result →
      answer.body.Answers raw info listed total →
      ∃ hits, result.summary.totalHits = total ∧ result.hits = hits.map .hit ∧
        List.Forall₂ Hit.Tells listed hits ∧ Item.sources result.hits = hits.map (·.source) ∧
        ∀ steps, let shown := ((Board.ofResult result).final steps).hits
          (Item.hits shown).Sublist hits ∧ Item.sources shown = (Item.hits shown).map (·.source)) ∧
    ∀ (b after : Board) step view source done, b.Sound →
      step.replacement? = some (view, source) → b.step step = (.ok done, after) →
      b.Offers source after.hits ∧
        Item.sources after.hits = (Item.hits after.hits).map (·.source) := by
  refine ⟨succeeds_iff_answers answer, ?_, ?_⟩
  · intro result raw info listed total made answers
    obtain ⟨hits, counted, same, tells⟩ := tells_of_ofPayload answers made
    refine ⟨hits, counted, same, tells, ?_, fun steps => ⟨?_, Item.sources_eq _⟩⟩
    · rw [Item.sources_eq, same, Item.hits_map_hit]
    · have within := (Board.within_final result steps).cell
      rw [same, Item.hits_map_hit] at within
      exact within _
  · intro b after step view source done sound replaces stepped
    exact ⟨sound.offers_of_replaced replaces stepped, Item.sources_eq _⟩

/-- A wrapped answer with two hits. The first has a source of pairs, by a number, the text of the
number, and the number again; the second has none. -/
def paired : Payload :=
  .wrapped (.obj [("hits", .obj [("total", .obj [("value", .int 2)]),
    ("hits", .arr [
      .obj [("_id", .str "a"),
        ("_source", .arr [.arr [.int 1, .str "p"], .arr [.str "1", .str "q"],
          .arr [.int 1, .str "r"]])],
      .obj [("_id", .str "b"), ("sort", .arr [.int 7])]])])])

theorem result_iff_paired :
    ∃ (result : Result) (hits : List Hit), Result.ofPayload paired = .ok result ∧
      result.hits = hits.map .hit ∧
      hits.map (·.source) = [[(.int 1, .str "r"), (.str "1", .str "q")], []] ∧
      Item.sources result.hits = hits.map (·.source) ∧
      (∃ after, (Board.ofResult result).step (.replaceHits (.value (.str "xy"))) =
        (.ok none, after) ∧ Item.sources after.hits = []) ∧
      Item.sources ((Board.ofResult result).final
        [.edit .hits (.put (.int 0) (.str "x"))]).hits = [[]] := by
  obtain ⟨accepted, content, replaced⟩ := result_iff paired
  have made : Succeeds (Result.ofPayload paired) := ⟨_, rfl⟩
  obtain ⟨raw, info, listed, total, answers⟩ := accepted.mp made
  obtain ⟨result, same⟩ := made
  obtain ⟨hits, _, found, _, sources, _⟩ := content result raw info listed total same answers
  have after := replaced (Board.ofResult result) _ (.replaceHits (.value (.str "xy"))) _ _ none
    (Board.sound_ofResult result) rfl rfl
  refine ⟨result, hits, same, found, ?_, sources, ⟨_, rfl, after.2.trans ?_⟩, ?_⟩
  · rw [← sources]
    cases same
    rfl
  · cases same
    rfl
  · cases same
    rfl

end Payload

end SearchRequest
