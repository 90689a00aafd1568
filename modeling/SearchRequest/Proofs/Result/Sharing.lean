import SearchRequest.Proofs.Json.Merge
import SearchRequest.Proofs.Outcome
import SearchRequest.Proofs.Result.Pages
import SearchRequest.Result.Board

/-!
Runs over one result with its paginators and the callers' lists. Every paginator keeps the slot of
the result, so all of them show one list at every point of a run. That list is a caller's own from
the moment it is handed in until another takes its place; a list that is not shown stays apart
from what is shown.
-/

namespace SearchRequest

def BoardStep.replacement? : BoardStep → Option (Handle × Replacement)
  | .replaceHits source => some (.hits, source)
  | .replaceItems paginator source => some (.items paginator, source)
  | _ => none

theorem ListEdit.values_of_run {edit : ListEdit} {items : List Json} {after : List Item}
    {taken : Option Item} (ran : edit.run (items.map .value) = .ok (after, taken)) :
    ∃ others : List Json, after = others.map .value := by
  cases edit with
  | append value =>
    cases ran
    exact ⟨items ++ [value], by rw [List.map_append]; rfl⟩
  | pop =>
    simp only [run] at ran
    split at ran <;> cases ran
    exact ⟨items.dropLast, List.map_dropLast.symm⟩
  | put wanted value =>
    obtain ⟨place, _, same⟩ := bind_eq_ok.mp ran
    cases same
    exact ⟨items.set place value, List.map_set.symm⟩
  | clear =>
    cases ran
    exact ⟨[], rfl⟩

theorem Result.relisted_listed (raw : Object) : relisted raw (listed raw) = raw := by
  refine Object.alter_of_fixed fun value found => ?_
  have field : Object.field raw "hits" = value := by
    rw [Object.field, found]
    rfl
  cases value with
  | obj info =>
    refine congrArg Json.obj (Object.alter_of_fixed fun inner listed => ?_)
    have innerField : Object.field info "hits" = inner := by
      rw [Object.field, listed]
      rfl
    cases inner with
    | arr items => simp only [Result.listed, field, innerField]
    | _ => rfl
  | _ => rfl

namespace Board

section Lookup

variable {κ α : Type} [DecidableEq κ]

theorem lookup_filter_name (entries : List (κ × α)) (name other : κ) :
    (entries.filter fun entry => entry.1 != name).lookup other =
      if other = name then none else entries.lookup other := by
  induction entries with
  | nil => simp
  | cons entry rest ih =>
    obtain ⟨key, value⟩ := entry
    by_cases kept : key = name <;> by_cases same : other = key
    · subst kept same
      rw [List.filter_cons_of_neg (by simp), ih]
      simp
    · subst kept
      have differs : (other == key) = false := by simpa using same
      rw [List.filter_cons_of_neg (by simp), ih]
      simp [List.lookup_cons, differs, same]
    · subst same
      simp [kept]
    · have differs : (other == key) = false := by simpa using same
      simp [ih, kept, List.lookup_cons, differs]

theorem lookup_named (entries : List (κ × α)) (name other : κ) (a : α) :
    (named entries name a).lookup other =
      if other = name then some a else entries.lookup other := by
  rw [named, List.lookup_append, lookup_filter_name]
  by_cases same : other = name
  · simp [same]
  · have differs : (other == name) = false := by simpa using same
    simp [same, List.lookup_cons, differs]

end Lookup

variable {b after : Board}

theorem pager_eq_ok {name : String} {pager : Pager} :
    b.pager name = .ok pager ↔ b.pagers.lookup name = some pager := by
  unfold Board.pager
  cases b.pagers.lookup name <;> simp

theorem listCell_eq_ok {name : ListName} {number : Nat} :
    b.listCell name = .ok number ↔ b.lists.lookup name = some number := by
  unfold listCell
  cases b.lists.lookup name <;> simp

theorem cell_append (b : Board) (items : List Item) (number : Nat) :
    { b with cells := b.cells ++ [items] }.cell number =
      if number = b.cells.length then items else b.cell number := by
  unfold cell
  rcases Nat.lt_trichotomy number b.cells.length with below | same | above
  · have differs : number ≠ b.cells.length := by omega
    simp [List.getElem?_append_left below, differs]
  · simp [same]
  · have differs : number ≠ b.cells.length := by omega
    have unmade : b.cells[number]? = none := List.getElem?_eq_none (by omega)
    have unmadeAfter : (b.cells ++ [items])[number]? = none :=
      List.getElem?_eq_none (by simp; omega)
    simp [unmade, unmadeAfter, differs]

theorem cell_set {changed : Nat} (made : changed < b.cells.length) (items : List Item)
    (number : Nat) :
    { b with cells := b.cells.set changed items }.cell number =
      if number = changed then items else b.cell number := by
  unfold cell
  by_cases same : number = changed
  · subst same
    simp [made]
  · have differs : changed ≠ number := fun h => same h.symm
    simp [same, differs]

theorem held_hold {slot : Nat} (made : slot < b.slots.length) (number : Nat) :
    (b.hold slot number).held slot = number := by
  simp [hold, held, made]

/-- Every name stands for a list that was made, the callers' names for one each, and the paginators
have the slot of the result. -/
structure Sound (b : Board) : Prop where
  slot : b.slot < b.slots.length
  pagers : ∀ name pager, b.pagers.lookup name = some pager → pager.slot = b.slot
  shown : b.held b.slot < b.cells.length
  lists : ∀ name number, b.lists.lookup name = some number → number < b.cells.length
  distinct : ∀ name other number, b.lists.lookup name = some number →
    b.lists.lookup other = some number → name = other

theorem lookup_ofResult {r : Result} {name : ListName} {number : Nat} :
    (ofResult r).lists.lookup name = some number ↔ name = .answer ∧ number = 1 := by
  cases name with
  | answer => exact ⟨fun found => ⟨rfl, (Option.some.inj found).symm⟩, fun ⟨_, same⟩ => same ▸ rfl⟩
  | own other => exact ⟨nofun, nofun⟩

theorem sound_ofResult (r : Result) : (ofResult r).Sound where
  slot := Nat.zero_lt_one
  pagers := nofun
  shown := Nat.zero_lt_two
  lists name number found := by
    rw [(lookup_ofResult.mp found).2]
    exact Nat.one_lt_two
  distinct name other number found foundToo :=
    (lookup_ofResult.mp found).1.trans (lookup_ofResult.mp foundToo).1.symm

theorem Sound.cellOf_items (sound : b.Sound) {paginator : String} {number : Nat} :
    b.cellOf (.items paginator) = .ok number ↔
      Succeeds (b.pager paginator) ∧ number = b.held b.slot := by
  simp only [cellOf, bind_eq_ok, Except.ok.injEq]
  constructor
  · rintro ⟨pager, found, rfl⟩
    exact ⟨⟨pager, found⟩, by rw [sound.pagers _ _ (pager_eq_ok.mp found)]⟩
  · rintro ⟨⟨pager, found⟩, rfl⟩
    exact ⟨pager, found, by rw [sound.pagers _ _ (pager_eq_ok.mp found)]⟩

theorem Sound.cellOf_lt (sound : b.Sound) {handle : Handle} {number : Nat}
    (named : b.cellOf handle = .ok number) : number < b.cells.length := by
  cases handle with
  | hits =>
    cases named
    exact sound.shown
  | items paginator =>
    rw [(sound.cellOf_items.mp named).2]
    exact sound.shown
  | list name => exact sound.lists name number (listCell_eq_ok.mp named)

/-- What a step that is done changes. Both ways to replace the hits come to the slot of the
result. -/
inductive Moves (b : Board) : BoardStep → Board → Option Item → Prop
  | paged {size number : Json} {page : Page} (name : String)
      (accepted : Page.ofArguments size number = .ok page) :
      Moves b (.paginate size number name)
        { b with pagers := named b.pagers name ⟨page, b.slot⟩ } none
  | made {value : Json} {items : List Json} (name : String) (read : value.asElements = .ok items) :
      Moves b (.make name value)
        { b with cells := b.cells ++ [items.map Item.value],
                 lists := named b.lists (.own name) b.cells.length } none
  | linked {step : BoardStep} {view : Handle} {name : ListName} {number : Nat}
      (replaces : step.replacement? = some (view, .list name))
      (found : b.listCell name = .ok number) :
      Moves b step (b.hold b.slot number) none
  | copied {step : BoardStep} {view : Handle} {value : Json} {items : List Json}
      (replaces : step.replacement? = some (view, .value value))
      (read : value.asElements = .ok items) :
      Moves b step
        ({ b with cells := b.cells ++ [items.map Item.value] }.hold b.slot b.cells.length) none
  | edited {handle : Handle} {edit : ListEdit} {number : Nat} {items : List Item}
      {answer : Option Item} (found : b.cellOf handle = .ok number)
      (ran : edit.run (b.cell number) = .ok (items, answer)) :
      Moves b (.edit handle edit) { b with cells := b.cells.set number items } answer
  | asked {name value : Json} (found : Result.aggregation b.summary name = .ok value) :
      Moves b (.aggregation name) b (some (.value value))

theorem step_eq_ok {step : BoardStep} {answer : Option Item} :
    b.step step = (.ok answer, after) ↔ b.change step = .ok (after, answer) := by
  unfold Board.step
  cases b.change step <;> simp [and_comm, Prod.ext_iff]

theorem step_eq_error {step : BoardStep} {failure : Failure} :
    b.step step = (.error failure, after) ↔ b.change step = .error failure ∧ after = b := by
  unfold Board.step
  cases b.change step <;> simp [eq_comm]

theorem Sound.change_replacement (sound : b.Sound) {step : BoardStep} {view : Handle}
    {source : Replacement} (replaces : step.replacement? = some (view, source))
    (known : Succeeds (b.cellOf view)) :
    b.change step = (b.replace b.slot source).map fun after => (after, none) := by
  cases step with
  | replaceHits given =>
    cases replaces
    cases replaced : b.replace b.slot source <;> simp [change, replaced]
  | replaceItems paginator given =>
    cases replaces
    obtain ⟨number, named⟩ := known
    obtain ⟨pager, found, _⟩ := bind_eq_ok.mp named
    have taken := sound.pagers _ _ (pager_eq_ok.mp found)
    cases replaced : b.replace b.slot source <;> simp [change, found, taken, replaced]
  | _ => cases replaces

theorem known_of_change {step : BoardStep} {view : Handle} {source : Replacement}
    {changed : Board × Option Item} (replaces : step.replacement? = some (view, source))
    (done : b.change step = .ok changed) : Succeeds (b.cellOf view) := by
  cases step with
  | replaceHits given =>
    cases replaces
    exact succeeds_ok _
  | replaceItems paginator given =>
    cases replaces
    obtain ⟨pager, found, _⟩ := bind_eq_ok.mp done
    exact succeeds_bind.mpr ⟨pager, found, succeeds_ok _⟩
  | _ => cases replaces

theorem Sound.moves_of_replacement (sound : b.Sound) {step : BoardStep} {view : Handle}
    {source : Replacement} {answer : Option Item}
    (replaces : step.replacement? = some (view, source))
    (done : b.change step = .ok (after, answer)) : b.Moves step after answer := by
  rw [sound.change_replacement replaces (known_of_change replaces done)] at done
  cases source with
  | list name =>
    cases found : b.listCell name with
    | error failure => simp [replace, found] at done
    | ok number =>
      simp only [replace, found, bind_ok, map_ok, Except.ok.injEq, Prod.mk.injEq] at done
      obtain ⟨rfl, rfl⟩ := done
      exact .linked replaces found
  | value value =>
    cases read : value.asElements with
    | error failure => simp [replace, read] at done
    | ok items =>
      simp only [replace, read, bind_ok, map_ok, Except.ok.injEq, Prod.mk.injEq] at done
      obtain ⟨rfl, rfl⟩ := done
      exact .copied replaces read

theorem Sound.moves (sound : b.Sound) {step : BoardStep} {answer : Option Item}
    (done : b.step step = (.ok answer, after)) : b.Moves step after answer := by
  have changed := step_eq_ok.mp done
  cases step with
  | paginate size number name =>
    obtain ⟨page, accepted, same⟩ := bind_eq_ok.mp changed
    cases same
    exact .paged name accepted
  | make name value =>
    obtain ⟨items, read, same⟩ := bind_eq_ok.mp changed
    cases same
    exact .made name read
  | replaceHits source => exact sound.moves_of_replacement rfl changed
  | replaceItems paginator source => exact sound.moves_of_replacement rfl changed
  | edit handle edit =>
    obtain ⟨number, found, rest⟩ := bind_eq_ok.mp changed
    obtain ⟨⟨items, taken⟩, ran, same⟩ := bind_eq_ok.mp rest
    cases same
    exact .edited found ran
  | aggregation name =>
    obtain ⟨value, found, same⟩ := bind_eq_ok.mp changed
    cases same
    exact .asked found

theorem Sound.of_moves (sound : b.Sound) {step : BoardStep} {answer : Option Item}
    (moves : b.Moves step after answer) : after.Sound := by
  cases moves with
  | paged name accepted =>
    refine ⟨sound.slot, fun other pager found => ?_, sound.shown, sound.lists, sound.distinct⟩
    rw [lookup_named] at found
    split at found
    · cases found
      rfl
    · exact sound.pagers other pager found
  | @made value items name read =>
    have grown : b.cells.length < (b.cells ++ [items.map Item.value]).length := by simp
    refine ⟨sound.slot, sound.pagers, Nat.lt_trans sound.shown grown, fun other number found => ?_,
      fun other another number found foundToo => ?_⟩
    · rw [lookup_named] at found
      split at found
      · cases found
        exact grown
      · exact Nat.lt_trans (sound.lists other number found) grown
    · rw [lookup_named] at found foundToo
      -- A name that is new stands for the cell that is new, which none of the others can stand for.
      split at found <;> split at foundToo
      · simp_all
      · cases found
        have made := sound.lists _ _ foundToo
        omega
      · cases foundToo
        have made := sound.lists _ _ found
        omega
      · exact sound.distinct _ _ _ found foundToo
  | linked replaces found =>
    refine ⟨by simpa [hold] using sound.slot, sound.pagers, ?_, sound.lists, sound.distinct⟩
    change (b.hold b.slot _).held b.slot < _
    rw [held_hold sound.slot]
    exact sound.lists _ _ (listCell_eq_ok.mp found)
  | copied replaces read =>
    refine ⟨by simpa [hold] using sound.slot, sound.pagers, ?_, fun name number found => ?_,
      sound.distinct⟩
    · change (hold { b with cells := _ } b.slot _).held b.slot < _
      rw [held_hold (by exact sound.slot)]
      simp [hold]
    · have made := sound.lists name number found
      simp only [hold, List.length_append]
      omega
  | @edited handle edit number items answer found ran =>
    have kept : (b.cells.set number items).length = b.cells.length := List.length_set
    exact ⟨sound.slot, sound.pagers, Nat.lt_of_lt_of_eq sound.shown kept.symm,
      fun name number found => Nat.lt_of_lt_of_eq (sound.lists name number found) kept.symm,
      sound.distinct⟩
  | asked found => exact sound

theorem Sound.step (sound : b.Sound) (step : BoardStep) : (b.step step).2.Sound := by
  cases done : b.step step with
  | mk result after =>
    cases result with
    | error failure =>
      rw [(step_eq_error.mp done).2]
      exact sound
    | ok answer => exact sound.of_moves (sound.moves done)

def final (b : Board) (steps : List BoardStep) : Board :=
  steps.foldl (fun b step => (b.step step).2) b

theorem Sound.final_invariant {P : Board → Prop} {b : Board} {steps : List BoardStep}
    (sound : b.Sound) (keeps : ∀ step ∈ steps, ∀ b : Board, b.Sound → P b → P (b.step step).2)
    (start : P b) : (b.final steps).Sound ∧ P (b.final steps) := by
  induction steps generalizing b with
  | nil => exact ⟨sound, start⟩
  | cons step rest ih =>
    obtain ⟨first, others⟩ := List.forall_mem_cons.mp keeps
    exact ih (sound.step step) others (first b sound start)

/-- The result and every paginator show the list in the cell. -/
structure Shows (b : Board) (number : Nat) : Prop where
  hits : b.cellOf .hits = .ok number
  items : ∀ paginator, Succeeds (b.pager paginator) → b.cellOf (.items paginator) = .ok number

theorem Sound.shows (sound : b.Sound) {number : Nat} (held : b.held b.slot = number) :
    b.Shows number := by
  subst held
  exact ⟨rfl, fun _ known => sound.cellOf_items.mpr ⟨known, rfl⟩⟩

def Apart (b : Board) (name : ListName) : Prop :=
  ∃ number shown, b.listCell name = .ok number ∧ b.Shows shown ∧ number ≠ shown

theorem Sound.apart_iff (sound : b.Sound) {name : ListName} :
    b.Apart name ↔ ∃ number, b.lists.lookup name = some number ∧ number ≠ b.held b.slot := by
  constructor
  · rintro ⟨number, shown, found, shows, differs⟩
    have same : b.held b.slot = shown := Except.ok.inj shows.hits
    exact ⟨number, listCell_eq_ok.mp found, same ▸ differs⟩
  · rintro ⟨number, found, differs⟩
    exact ⟨number, _, listCell_eq_ok.mpr found, sound.shows rfl, differs⟩

def seen (b : Board) (handle : Handle) : Except Failure (List Item) :=
  (b.cellOf handle).map b.cell

theorem seen_set {changed : Nat} (made : changed < b.cells.length)
    (items : List Item) {handle : Handle} (other : b.cellOf handle ≠ .ok changed) :
    { b with cells := b.cells.set changed items }.seen handle = b.seen handle := by
  have same : { b with cells := b.cells.set changed items }.cellOf handle = b.cellOf handle := by
    cases handle <;> rfl
  unfold seen
  rw [same]
  cases named : b.cellOf handle with
  | error failure => rfl
  | ok number =>
    have differs : number ≠ changed := fun h => other (h ▸ named)
    simp [cell_set made, differs]

end Board

/-- The step hands the list in, or gives its name to another. -/
def BoardStep.reuses (name : ListName) : BoardStep → Bool
  | .make other _ => .own other == name
  | .replaceHits (.list other) | .replaceItems _ (.list other) => other == name
  | _ => false

theorem BoardStep.reuses_of_replacement {step : BoardStep} {view : Handle}
    {name other : ListName} (replaces : step.replacement? = some (view, .list other)) :
    step.reuses name = (other == name) := by
  cases step with
  | replaceHits source =>
    cases replaces
    rfl
  | replaceItems paginator source =>
    cases replaces
    rfl
  | _ => cases replaces

namespace Board

variable {b after : Board}

theorem lookup_of_moves {step : BoardStep} {answer : Option Item}
    (moves : b.Moves step after answer) {name : ListName} (kept : step.reuses name = false) :
    after.lists.lookup name = b.lists.lookup name := by
  cases moves with
  | made other read =>
    have differs : name ≠ .own other := by
      rintro rfl
      simp [BoardStep.reuses] at kept
    rw [lookup_named, if_neg differs]
  | _ => rfl

theorem Sound.held_of_moves (sound : b.Sound) {step : BoardStep} {answer : Option Item}
    (moves : b.Moves step after answer) {name : ListName} {number : Nat}
    (kept : step.reuses name = false) (found : b.lists.lookup name = some number)
    (hidden : number ≠ b.held b.slot) : number ≠ after.held after.slot := by
  cases moves with
  | @linked step view other shown replaces handed =>
    have shownAfter : (b.hold b.slot shown).held b.slot = shown := held_hold sound.slot shown
    change number ≠ (b.hold b.slot shown).held b.slot
    rw [shownAfter]
    rintro rfl
    have same := sound.distinct _ _ _ found (listCell_eq_ok.mp handed)
    rw [BoardStep.reuses_of_replacement replaces, same] at kept
    simp at kept
  | @copied step view value items replaces read =>
    have made := sound.lists name number found
    change number ≠ (hold { b with cells := _ } b.slot b.cells.length).held b.slot
    rw [held_hold (by exact sound.slot)]
    omega
  | _ => exact hidden

theorem Sound.cell_of_moves (sound : b.Sound) {step : BoardStep} {answer : Option Item}
    (moves : b.Moves step after answer) {name : ListName} {number : Nat}
    (found : b.lists.lookup name = some number) (hidden : number ≠ b.held b.slot)
    (other : ∀ edit, step ≠ .edit (.list name) edit) : after.cell number = b.cell number := by
  have old : number ≠ b.cells.length := by
    have made := sound.lists name number found
    omega
  cases moves with
  | @made value items another read =>
    have appended := cell_append b (items.map .value) number
    rw [if_neg old] at appended
    exact appended
  | @copied step view value items replaces read =>
    have appended := cell_append b (items.map .value) number
    rw [if_neg old] at appended
    exact appended
  | @edited handle edit changed items answer named ran =>
    have differs : number ≠ changed := by
      rintro rfl
      cases handle with
      | hits => exact hidden (Except.ok.inj named).symm
      | items paginator => exact hidden (sound.cellOf_items.mp named).2
      | list another =>
        have same := sound.distinct _ _ _ found (listCell_eq_ok.mp named)
        exact other edit (same ▸ rfl)
    rw [cell_set (sound.cellOf_lt named), if_neg differs]
  | _ => rfl

theorem Sound.apart_step (sound : b.Sound) {step : BoardStep} {name : ListName}
    (kept : step.reuses name = false) (apart : b.Apart name) : (b.step step).2.Apart name := by
  cases done : b.step step with
  | mk result after =>
    cases result with
    | error failure =>
      rw [(step_eq_error.mp done).2]
      exact apart
    | ok answer =>
      have moves := sound.moves done
      obtain ⟨number, found, hidden⟩ := sound.apart_iff.mp apart
      exact (sound.of_moves moves).apart_iff.mpr
        ⟨number, (lookup_of_moves moves kept).trans found,
          sound.held_of_moves moves kept found hidden⟩

theorem Sound.seen_of_edit (sound : b.Sound) {name : ListName} (apart : b.Apart name)
    (edit : ListEdit) {view : Handle} (shown : ∀ other, view ≠ .list other) :
    (b.step (.edit (.list name) edit)).2.seen view = b.seen view := by
  obtain ⟨number, found, hidden⟩ := sound.apart_iff.mp apart
  cases done : b.step (.edit (.list name) edit) with
  | mk result after =>
    cases result with
    | error failure => rw [(step_eq_error.mp done).2]
    | ok answer =>
      cases sound.moves done with
      | @edited _ _ changed items _ named ran =>
        have same : number = changed := by
          have listed := listCell_eq_ok.mp named
          rw [found] at listed
          exact Option.some.inj listed
        apply seen_set (sound.cellOf_lt named)
        intro viewed
        cases view with
        | hits => exact hidden (same.trans (Except.ok.inj viewed).symm)
        | items paginator => exact hidden (same.trans (sound.cellOf_items.mp viewed).2)
        | list other => exact shown other rfl
      | linked replaces => cases replaces
      | copied replaces => cases replaces

theorem Sound.seen_list_step (sound : b.Sound) {step : BoardStep} {name : ListName}
    (apart : b.Apart name) (kept : step.reuses name = false)
    (other : ∀ edit, step ≠ .edit (.list name) edit) :
    (b.step step).2.seen (.list name) = b.seen (.list name) := by
  obtain ⟨number, found, hidden⟩ := sound.apart_iff.mp apart
  cases done : b.step step with
  | mk result after =>
    cases result with
    | error failure => rw [(step_eq_error.mp done).2]
    | ok answer =>
      have moves := sound.moves done
      have before : b.cellOf (.list name) = .ok number := listCell_eq_ok.mpr found
      have later : after.cellOf (.list name) = .ok number :=
        listCell_eq_ok.mpr ((lookup_of_moves moves kept).trans found)
      simp only [seen, before, later, map_ok, sound.cell_of_moves moves found hidden other]

theorem Sound.apart_of_replaced (sound : b.Sound) {step : BoardStep} {view : Handle}
    {source : Replacement} {name : ListName} {number : Nat} {answer : Option Item}
    (replaces : step.replacement? = some (view, source)) (other : source ≠ .list name)
    (found : b.listCell name = .ok number) (done : b.step step = (.ok answer, after)) :
    after.Apart name := by
  have moves := sound.moves done
  have listed := listCell_eq_ok.mp found
  refine (sound.of_moves moves).apart_iff.mpr ⟨number, ?_, ?_⟩
  · rw [← listed]
    cases moves with
    | made => cases replaces
    | _ => rfl
  · cases moves with
    | @linked _ _ another shown linked handed =>
      change number ≠ (b.hold b.slot shown).held b.slot
      rw [held_hold sound.slot]
      rintro rfl
      have same := sound.distinct _ _ _ listed (listCell_eq_ok.mp handed)
      rw [linked] at replaces
      cases replaces
      exact other (same ▸ rfl)
    | copied copied read =>
      have made := sound.lists name number listed
      change number ≠ (hold { b with cells := _ } b.slot b.cells.length).held b.slot
      rw [held_hold (by exact sound.slot)]
      omega
    | _ => cases replaces

theorem Sound.seen_list_final (sound : b.Sound) {name : ListName} {later : List BoardStep}
    (apart : b.Apart name) (kept : ∀ step ∈ later, step.reuses name = false ∧
      ∀ edit, step ≠ .edit (.list name) edit) :
    (b.final later).seen (.list name) = b.seen (.list name) := by
  refine (sound.final_invariant
    (P := fun now => now.Apart name ∧ now.seen (.list name) = b.seen (.list name)) ?_
    ⟨apart, rfl⟩).2.2
  rintro step listed now sound ⟨apart, same⟩
  obtain ⟨fresh, other⟩ := kept step listed
  exact ⟨sound.apart_step fresh apart, (sound.seen_list_step apart fresh other).trans same⟩

def Lists (b : Board) (items : List Json) : Prop := b.seen (.list .answer) = .ok (items.map .value)

theorem raw_of_lists {items : List Json} (lists : b.Lists items) :
    b.raw = Result.relisted b.summary.raw items := by
  obtain ⟨number, named, same⟩ := map_eq_ok.mp lists
  have found := listCell_eq_ok.mp named
  have values : (items.map Item.value).filterMap Item.value? = items := by
    rw [List.filterMap_map]
    exact List.filterMap_some
  rw [raw, found]
  change Result.relisted b.summary.raw ((b.cell number).filterMap Item.value?) = _
  rw [same, values]

theorem lists_ofResult (r : Result) : (ofResult r).Lists (Result.listed r.summary.raw) := rfl

theorem apart_ofResult (r : Result) : (ofResult r).Apart .answer :=
  (sound_ofResult r).apart_iff.mpr ⟨1, rfl, Nat.one_ne_zero⟩

theorem lookup_answer_of_moves {step : BoardStep} {answer : Option Item}
    (moves : b.Moves step after answer) : after.lists.lookup .answer = b.lists.lookup .answer := by
  cases moves with
  | made name read => exact (lookup_named _ _ _ _).trans (if_neg nofun)
  | _ => rfl

theorem Sound.cell_or_run_of_moves (sound : b.Sound) {step : BoardStep} {answer : Option Item}
    (moves : b.Moves step after answer) {number : Nat} (made : number < b.cells.length) :
    after.cell number = b.cell number ∨
      ∃ edit taken, ListEdit.run edit (b.cell number) = .ok (after.cell number, taken) := by
  have old : number ≠ b.cells.length := Nat.ne_of_lt made
  cases moves with
  | made name read => exact .inl ((cell_append b _ number).trans (if_neg old))
  | copied replaces read => exact .inl ((cell_append b _ number).trans (if_neg old))
  | @edited handle edit changed items answer named ran =>
    have after := cell_set (sound.cellOf_lt named) items number
    by_cases same : number = changed
    · subst same
      exact .inr ⟨edit, answer, by rw [after, if_pos rfl]; exact ran⟩
    · exact .inl (after.trans (if_neg same))
  | _ => exact .inl rfl

theorem Sound.lists_step (sound : b.Sound) (step : BoardStep) {items : List Json}
    (lists : b.Lists items) : ∃ others, (b.step step).2.Lists others := by
  cases done : b.step step with
  | mk result after =>
    cases result with
    | error failure =>
      rw [(step_eq_error.mp done).2]
      exact ⟨items, lists⟩
    | ok answer =>
      have moves := sound.moves done
      obtain ⟨number, named, same⟩ := map_eq_ok.mp lists
      have found := listCell_eq_ok.mp named
      have later : after.cellOf (.list .answer) = .ok number :=
        listCell_eq_ok.mpr ((lookup_answer_of_moves moves).trans found)
      simp only [Lists, seen, later, map_ok, Except.ok.injEq]
      rcases sound.cell_or_run_of_moves moves (sound.lists _ _ found) with kept | ⟨edit, taken, ran⟩
      · exact ⟨items, kept.trans same⟩
      · rw [same] at ran
        exact edit.values_of_run ran

theorem lookup_pages (b : Board) (paginator : String) :
    b.pages.lookup paginator = (b.pagers.lookup paginator).map (·.page) := by
  unfold pages
  induction b.pagers with
  | nil => rfl
  | cons entry rest ih =>
    obtain ⟨name, pager⟩ := entry
    simp only [List.map_cons, List.lookup_cons, ih]
    split <;> rfl

theorem Sound.pages_step (sound : b.Sound) {step : BoardStep} {paginator : String}
    (kept : ∀ size number, step ≠ .paginate size number paginator) :
    (b.step step).2.pages.lookup paginator = b.pages.lookup paginator := by
  cases done : b.step step with
  | mk result after =>
    cases result with
    | error failure => rw [(step_eq_error.mp done).2]
    | ok answer =>
      rw [lookup_pages, lookup_pages]
      cases sound.moves done with
      | paged name accepted =>
        have differs : paginator ≠ name := by
          rintro rfl
          exact kept _ _ rfl
        rw [lookup_named, if_neg differs]
      | _ => rfl

theorem Sound.summary_step (sound : b.Sound) (step : BoardStep) :
    (b.step step).2.summary = b.summary := by
  cases done : b.step step with
  | mk result after =>
    cases result with
    | error failure => rw [(step_eq_error.mp done).2]
    | ok answer => cases sound.moves done <;> rfl

theorem Sound.shows_of_moves (sound : b.Sound) {step : BoardStep} {answer : Option Item}
    (moves : b.Moves step after answer) (keeps : step.replacement? = none) {number : Nat}
    (shows : b.Shows number) : after.Shows number := by
  have held : b.held b.slot = number := Except.ok.inj shows.hits
  refine (sound.of_moves moves).shows ?_
  rw [← held]
  cases moves with
  | linked replaces found =>
    rw [replaces] at keeps
    cases keeps
  | copied replaces read =>
    rw [replaces] at keeps
    cases keeps
  | _ => rfl

theorem cellOf_items_of_lookup {paginator : String} {pager : Pager}
    (found : b.pagers.lookup paginator = some pager) :
    b.cellOf (.items paginator) = .ok (b.held pager.slot) := by
  rw [cellOf, pager_eq_ok.mpr found, bind_ok]

/-- What holds at every point of a run over one result. One list is shown under all names, and it
stays the one that is shown whatever is done, until the hits are replaced. A list that a caller has
is shown exactly from when it is handed in until something else takes its place, and anything else
that is handed in is copied. -/
structure Sharing (b : Board) : Prop where
  one : ∃ number, b.Shows number
  stays : ∀ step number answer after, step.replacement? = none → b.Shows number →
    b.step step = (.ok answer, after) → after.Shows number
  paginated : ∀ (page : Page) name, ∃ after,
    b.step (.paginate (.int page.size) (.int page.number) name) = (.ok none, after) ∧
      after.pages.lookup name = some page ∧ after.cellOf (.items name) = b.cellOf .hits ∧
      (∀ other, other ≠ .items name → after.cellOf other = b.cellOf other) ∧
      after.cells = b.cells
  made : ∀ name value items, value.asElements = .ok items → ∃ after,
    b.step (.make name value) = (.ok none, after) ∧ after.Apart (.own name) ∧
      after.cellOf (.list (.own name)) = .ok b.cells.length ∧
      (∀ other, other ≠ .list (.own name) → after.cellOf other = b.cellOf other) ∧
      after.cells = b.cells ++ [items.map .value]
  asked : ∀ name answer after, b.step (.aggregation name) = (.ok answer, after) → after = b
  handedIn : ∀ step view name number, step.replacement? = some (view, .list name) →
    Succeeds (b.cellOf view) → b.listCell name = .ok number →
    ∃ after, b.step step = (.ok none, after) ∧ after.Shows number ∧ after.lists = b.lists ∧
      after.cells = b.cells
  copied : ∀ step view value items, step.replacement? = some (view, .value value) →
    Succeeds (b.cellOf view) → value.asElements = .ok items →
    ∃ after, b.step step = (.ok none, after) ∧ after.Shows b.cells.length ∧
      after.lists = b.lists ∧ after.cells = b.cells ++ [items.map .value] ∧
      ∀ name, b.listCell name ≠ .ok b.cells.length
  edited : ∀ handle edit number items answer, b.cellOf handle = .ok number →
    edit.run (b.cell number) = .ok (items, answer) →
    ∃ after, b.step (.edit handle edit) = (.ok answer, after) ∧
      (∀ other, after.cellOf other = b.cellOf other) ∧
      ∀ other, after.cell other = if other = number then items else b.cell other
  unreadable : ∀ step view value failure, step.replacement? = some (view, .value value) →
    Succeeds (b.cellOf view) → value.asElements = .error failure →
    b.step step = (.error failure, b)
  outOfRange : ∀ handle edit number failure, b.cellOf handle = .ok number →
    edit.run (b.cell number) = .error failure → b.step (.edit handle edit) = (.error failure, b)
  refused : ∀ step failure after, b.step step = (.error failure, after) → after = b
  replaced : ∀ step view source name number answer after,
    step.replacement? = some (view, source) → source ≠ .list name → b.listCell name = .ok number →
    b.step step = (.ok answer, after) → after.Apart name
  staysApart : ∀ name later, b.Apart name → (∀ step ∈ later, step.reuses name = false) →
    (b.final later).Apart name
  affectsNone : ∀ name edit view, b.Apart name → (∀ other, view ≠ .list other) →
    (b.step (.edit (.list name) edit)).2.seen view = b.seen view
  unaffected : ∀ name step, b.Apart name → step.reuses name = false →
    (∀ edit, step ≠ .edit (.list name) edit) →
    (b.step step).2.seen (.list name) = b.seen (.list name)
  pages : ∀ paginator later,
    (∀ step ∈ later, ∀ size number, step ≠ .paginate size number paginator) →
    (b.final later).pages.lookup paginator = b.pages.lookup paginator

theorem Sound.sharing (sound : b.Sound) : b.Sharing where
  one := ⟨_, sound.shows rfl⟩
  stays step number answer after keeps shows done :=
    sound.shows_of_moves (sound.moves done) keeps shows
  paginated page name := by
    have found : (named b.pagers name ⟨page, b.slot⟩).lookup name = some ⟨page, b.slot⟩ := by
      rw [lookup_named, if_pos rfl]
    let after := { b with pagers := named b.pagers name ⟨page, b.slot⟩ }
    refine ⟨after, ?_, ?_, @cellOf_items_of_lookup after _ _ found, ?_, rfl⟩
    · rw [step_eq_ok, change, Page.ofArguments_of_pos page.size_pos page.number_pos]
      rfl
    · rw [lookup_pages, found]
      rfl
    · intro other differs
      cases other with
      | items paginator =>
        have another : paginator ≠ name := fun same => differs (same ▸ rfl)
        have kept : after.pagers.lookup paginator = b.pagers.lookup paginator :=
          (lookup_named _ _ _ _).trans (if_neg another)
        simp only [cellOf, Board.pager, kept]
        rfl
      | _ => rfl
  made name value items read := by
    have done : b.step (.make name value) = (.ok none,
        { b with cells := b.cells ++ [items.map Item.value],
                 lists := named b.lists (.own name) b.cells.length }) := by
      rw [step_eq_ok]
      simp [change, read, fresh]
    have found : (named b.lists (.own name) b.cells.length).lookup (.own name) =
        some b.cells.length := by
      rw [lookup_named, if_pos rfl]
    refine ⟨_, done, ?_, listCell_eq_ok.mpr found, ?_, rfl⟩
    · exact (sound.of_moves (sound.moves done)).apart_iff.mpr
        ⟨_, found, Nat.ne_of_gt sound.shown⟩
    · intro other differs
      cases other with
      | list another =>
        have apart : another ≠ .own name := fun same => differs (same ▸ rfl)
        simp only [cellOf, listCell, lookup_named, if_neg apart]
      | _ => rfl
  asked name answer after done := by
    cases sound.moves done with
    | asked found => rfl
    | linked replaces => cases replaces
    | copied replaces => cases replaces
  handedIn step view name number replaces known found := by
    refine ⟨b.hold b.slot number, ?_, ?_, rfl, rfl⟩
    · rw [step_eq_ok, sound.change_replacement replaces known]
      simp [replace, found]
    · exact (sound.of_moves (.linked replaces found)).shows (held_hold sound.slot number)
  copied step view value items replaces known read := by
    refine ⟨hold { b with cells := b.cells ++ [items.map .value] } b.slot b.cells.length,
      ?_, ?_, rfl, rfl, fun name found => ?_⟩
    · rw [step_eq_ok, sound.change_replacement replaces known]
      simp [replace, read, fresh]
    · exact (sound.of_moves (.copied replaces read)).shows (held_hold (by exact sound.slot) _)
    · have made := sound.lists name _ (listCell_eq_ok.mp found)
      omega
  edited handle edit number items answer named ran := by
    refine ⟨{ b with cells := b.cells.set number items }, ?_, fun other => ?_, ?_⟩
    · rw [step_eq_ok]
      simp [change, named, ran]
    · cases other <;> rfl
    · exact cell_set (sound.cellOf_lt named) items
  unreadable step view value failure replaces known unread := by
    rw [step_eq_error, sound.change_replacement replaces known]
    simp [replace, unread]
  outOfRange handle edit number failure named failed := by
    rw [step_eq_error]
    simp [change, named, failed]
  refused step failure after failed := (step_eq_error.mp failed).2
  replaced step view source name number answer after replaces other found done :=
    sound.apart_of_replaced replaces other found done
  staysApart name later apart kept :=
    (sound.final_invariant
      (fun step listed _ sound apart => sound.apart_step (kept step listed) apart) apart).2
  affectsNone name edit view apart shown := sound.seen_of_edit apart edit shown
  unaffected name step apart kept other := sound.seen_list_step apart kept other
  pages paginator later kept :=
    (sound.final_invariant (fun step listed _ sound same =>
      (sound.pages_step (kept step listed)).trans same) rfl).2

/-- At every point of every run over a result its paginators and itself show one list, and the
result apart from its hits is as it was. The answer is as it came but for its list of hits, which
has what is seen under the name of that list; and as long as no caller hands that list in or
changes it, the answer is as it came. -/
theorem sharing_final (r : Result) (steps : List BoardStep) :
    ((ofResult r).final steps).Sharing ∧ ((ofResult r).final steps).summary = r.summary ∧
    (∃ items, ((ofResult r).final steps).seen (.list .answer) = .ok (items.map .value) ∧
      ((ofResult r).final steps).raw = Result.relisted r.summary.raw items) ∧
    ((∀ step ∈ steps, step.reuses .answer = false ∧ ∀ edit, step ≠ .edit (.list .answer) edit) →
      ((ofResult r).final steps).raw = r.summary.raw) := by
  let start := ofResult r
  have keeps (step : BoardStep) (_ : step ∈ steps) (b : Board) (sound : b.Sound)
      (held : b.summary = r.summary ∧ ∃ items, b.Lists items) :
      (b.step step).2.summary = r.summary ∧ ∃ items, (b.step step).2.Lists items := by
    obtain ⟨same, items, lists⟩ := held
    exact ⟨(sound.summary_step step).trans same, sound.lists_step step lists⟩
  obtain ⟨sound, same, items, lists⟩ :=
    (sound_ofResult r).final_invariant keeps ⟨rfl, _, lists_ofResult r⟩
  refine ⟨sound.sharing, same, ⟨items, lists, by rw [raw_of_lists lists, same]⟩, fun kept => ?_⟩
  have unchanged : ((ofResult r).final steps).Lists (Result.listed r.summary.raw) :=
    ((sound_ofResult r).seen_list_final (apart_ofResult r) kept).trans (lists_ofResult r)
  rw [raw_of_lists unchanged, same, Result.relisted_listed]

/-- A caller's list is handed in through one paginator and changed under its own name and through
the result; that the hits cannot be replaced by a truth value changes nothing. -/
def exchange : List BoardStep :=
  [.make "mine" (.arr [.str "a"]), .paginate (.int 10) (.int 1) "first",
   .paginate (.int 5) (.int 2) "second", .replaceItems "first" (.list (.own "mine")),
   .edit (.list (.own "mine")) (.append (.str "b")), .replaceHits (.value (.bool true)),
   .edit .hits (.put (.int (-1)) (.str "c"))]

def emptied : Result :=
  ⟨⟨2, .null, .null, [], [("hits", .obj [("total", .int 2), ("hits", .arr [])])]⟩, []⟩

def third : BoardStep := .paginate (.int 3) (.int 1) "third"

theorem sharing_final_exchange :
    ((ofResult emptied).final (exchange ++ [third])).summary.totalHits = 2 ∧
    ((ofResult emptied).final (exchange ++ [third])).raw = emptied.summary.raw ∧
    ∃ paged added, ((ofResult emptied).final exchange).step third = (.ok none, paged) ∧
      paged.cellOf (.items "third") = paged.cellOf (.list (.own "mine")) ∧
      paged.step (.edit (.list (.own "mine")) (.append (.str "d"))) = (.ok none, added) ∧
      added.seen (.items "third") =
        .ok [.value (.str "a"), .value (.str "c"), .value (.str "d")] := by
  obtain ⟨sharing, _⟩ := sharing_final emptied exchange
  obtain ⟨paged, stepped, _, shown, others, cells⟩ :=
    sharing.paginated ⟨3, 1, by decide, by decide⟩ "third"
  have same : (ofResult emptied).final (exchange ++ [third]) = paged := by
    rw [final, List.foldl_append]
    exact congrArg Prod.snd stepped
  obtain ⟨onward, summary, _, answer⟩ := sharing_final emptied (exchange ++ [third])
  have kept : ∀ step ∈ exchange ++ [third], step.reuses .answer = false ∧
      ∀ edit, step ≠ .edit (.list .answer) edit := by
    simp [exchange, third, BoardStep.reuses]
  refine ⟨by rw [summary]; rfl, answer kept, ?_⟩
  rw [same] at onward
  have mine : paged.cellOf (.list (.own "mine")) = .ok 2 :=
    (others (.list (.own "mine")) nofun).trans rfl
  have items : paged.cellOf (.items "third") = .ok 2 := shown.trans rfl
  have held : paged.cell 2 = [.value (.str "a"), .value (.str "c")] := by
    rw [cell, cells]
    rfl
  obtain ⟨added, ran, named, changed⟩ :=
    onward.edited (.list (.own "mine")) (.append (.str "d")) 2 _ none mine rfl
  refine ⟨paged, added, stepped, items.trans mine.symm, ran, ?_⟩
  rw [seen, named, items, map_ok, changed, if_pos rfl, held]
  rfl

example (r : Result) : ((ofResult r).final exchange).seen (.items "second") =
    .ok [.value (.str "a"), .value (.str "c")] := by cbv

example (r : Result) :
    let b := (ofResult r).final
      (exchange ++
        [.replaceItems "second" (.value (.str "xy")), .edit (.list (.own "mine")) .clear])
    b.seen (.items "first") = .ok [.value (.str "x"), .value (.str "y")] ∧
      b.seen (.list (.own "mine")) = .ok [] := by cbv

example : ((ofResult emptied).final
      [.replaceHits (.list .answer), .edit .hits (.append (.str "x"))]).raw =
    [("hits", .obj [("total", .int 2), ("hits", .arr [.str "x"])])] := by cbv

end Board

end SearchRequest
