import Mathlib.Tactic.Linarith
import Mathlib.Tactic.Ring
import SearchRequest.Proofs.Result.Pages
import SearchRequest.Proofs.Result.Sharing
import SearchRequest.Proofs.Search.Failing

/-!
What is told of a page. The number of the last page, the neighbours of a page and the places of its
items are worked out apart from each other; they agree whatever the total, the size and the number
are, and whatever becomes of the items.
-/

namespace SearchRequest

namespace Page

theorem lastPage_bounds (p : Page) {total : Nat} (some_ : 0 < total) :
    ((p.lastPage total : Int) - 1) * p.size < total ∧
      (total : Int) ≤ p.lastPage total * p.size := by
  have whole : p.lastPage total * p.size ≤ total + p.size - 1 := Nat.div_mul_le_self _ _
  have short : total + p.size - 1 < p.lastPage total * p.size + p.size :=
    Nat.lt_div_mul_add p.size_pos
  have positive := p.size_pos
  rw [Int.sub_mul, Int.one_mul, ← Int.natCast_mul]
  omega

theorem le_of_reaches {size total : Nat} {m n : Int}
    (begins : (m - 1) * size < total) (reaches : (total : Int) ≤ n * size) : m ≤ n := by
  by_contra behind
  have sized : (0 : Int) ≤ size := Int.natCast_nonneg size
  have before : n * size ≤ (m - 1) * size := Int.mul_le_mul_of_nonneg_right (by omega) sized
  omega

theorem lastPage_eq_iff (p : Page) (total : Nat) (n : Int) :
    (p.lastPage total : Int) = n ↔
      (total = 0 → n = 0) ∧
        (0 < total → (n - 1) * p.size < total ∧ (total : Int) ≤ n * p.size) := by
  rcases Nat.eq_zero_or_pos total with rfl | some_
  · have none : p.lastPage 0 = 0 :=
      Nat.div_eq_of_lt (by have positive := p.size_pos; omega)
    rw [none]
    constructor
    · rintro rfl
      exact ⟨fun _ => rfl, fun absurd => nomatch absurd⟩
    · intro bounds
      exact (bounds.1 rfl).symm
  · have known := p.lastPage_bounds some_
    constructor
    · rintro rfl
      exact ⟨fun none => absurd none (Nat.ne_of_gt some_), fun _ => known⟩
    · intro bounds
      obtain ⟨begins, reaches⟩ := bounds.2 some_
      exact Int.le_antisymm (le_of_reaches known.1 reaches)
        (le_of_reaches begins known.2)

theorem hasMore_iff (p : Page) (total : Nat) :
    p.hasMore total = true ↔ p.number * p.size < total := by
  rw [hasMore, decide_eq_true_eq, lastPage_eq_ceilDiv, ← Nat.not_le,
    ceilDiv_le_iff_le_mul p.size_pos, Nat.not_le, Nat.mul_comm]

theorem next?_eq_some (p : Page) (total n : Nat) :
    p.next? total = some n ↔ p.number * p.size < total ∧ n = p.number + 1 := by
  rw [next?, Option.ite_none_right_eq_some, hasMore_iff, Option.some.injEq, eq_comm]

theorem previous?_eq_some (p : Page) (n : Nat) :
    p.previous? = some n ↔ 1 < p.number ∧ n = p.number - 1 := by
  rw [previous?, Option.ite_none_right_eq_some, Option.some.injEq, eq_comm]

theorem isFirst_eq_false (p : Page) : p.isFirst = false ↔ 1 < p.number := by
  rw [isFirst, decide_eq_false_iff_not, Nat.not_le]

/-- The items of a page have places from one number to another. -/
structure Spans (p : Page) (count first last : Nat) : Prop where
  first : p.firstItem? count = some first
  last : p.lastItem? count = some last

theorem spans_of_pos (p : Page) {count : Nat} (filled : 0 < count) :
    p.Spans count (p.offset + 1) (p.offset + count) := by
  have first : p.firstItem? count = some (p.offset + 1) := by
    rw [firstItem?, if_neg (Nat.ne_of_gt filled), offset, Nat.mul_comm]
  refine ⟨first, ?_⟩
  rw [lastItem?, first, Option.map_some, Nat.add_right_comm, Nat.add_sub_cancel]

theorem firstItem?_eq_none (p : Page) {count : Nat} : p.firstItem? count = none ↔ count = 0 := by
  rw [firstItem?]
  split
  · rename_i empty
    exact iff_of_true rfl empty
  · rename_i filled
    exact iff_of_false nofun filled

theorem lastItem?_eq_none (p : Page) {count : Nat} : p.lastItem? count = none ↔ count = 0 := by
  rw [lastItem?, Option.map_eq_none_iff, firstItem?_eq_none]

def complete (p : Page) (total : Nat) : Nat := min p.size (total - (p.number - 1) * p.size)

/-- The places of a complete page are within the total, and are those of its window. -/
structure Covers (p : Page) (total first last : Nat) : Prop where
  counted : 1 ≤ first
  ordered : first ≤ last
  within : last ≤ total
  more : p.hasMore total = true ↔ last < total
  window : ∀ place, place ∈ (Window.ofPage p.size p.number).places total ↔
    first ≤ place + 1 ∧ place + 1 ≤ last

theorem covers_of_complete (p : Page) {total : Nat} (filled : 0 < p.complete total) :
    p.Covers total (p.offset + 1) (p.offset + p.complete total) := by
  have next : p.number * p.size = p.offset + p.size := by
    obtain ⟨before, same⟩ : ∃ before, p.number = before + 1 :=
      ⟨p.number - 1, (Nat.sub_add_cancel p.number_pos).symm⟩
    rw [offset, same, Nat.add_sub_cancel, Nat.add_mul, Nat.one_mul, Nat.mul_comm]
  have count : p.complete total = min p.size (total - p.offset) := by
    rw [complete, offset, Nat.mul_comm]
  rw [count] at filled ⊢
  refine ⟨by omega, by omega, by omega, ?_, fun place => ?_⟩
  · rw [hasMore_iff, next]
    omega
  · rw [Window.places, Window.ofPage, Finset.mem_inter, Finset.mem_Ico, Finset.mem_range]
    change (p.offset ≤ place ∧ place < p.offset + p.size) ∧ place < total ↔ _
    omega

/-- All that a page says of itself, over so many hits and with so many items on it, agrees. -/
structure Agrees (p : Page) (total count : Nat) : Prop where
  lastPage (n : Int) : (p.lastPage total : Int) = n ↔
    (total = 0 → n = 0) ∧ (0 < total → (n - 1) * p.size < total ∧ (total : Int) ≤ n * p.size)
  hasMore : p.hasMore total = true ↔ p.number * p.size < total
  next (n : Nat) : p.next? total = some n ↔ p.number * p.size < total ∧ n = p.number + 1
  previous (n : Nat) : p.previous? = some n ↔ 1 < p.number ∧ n = p.number - 1
  isFirst : p.isFirst = false ↔ 1 < p.number
  unplaced : (p.firstItem? count = none ↔ count = 0) ∧ (p.lastItem? count = none ↔ count = 0)
  placed : 0 < count → ∃ first last, p.Spans count first last ∧ (last : Int) - first + 1 = count
  covered : count = p.complete total → 0 < count →
    ∃ first last, p.Spans count first last ∧ p.Covers total first last

theorem agrees (p : Page) (total count : Nat) : p.Agrees total count where
  lastPage := p.lastPage_eq_iff total
  hasMore := p.hasMore_iff total
  next := p.next?_eq_some total
  previous := p.previous?_eq_some
  isFirst := p.isFirst_eq_false
  unplaced := ⟨p.firstItem?_eq_none, p.lastItem?_eq_none⟩
  placed filled := ⟨_, _, p.spans_of_pos filled, by push_cast; ring⟩
  covered whole filled := by
    subst whole
    exact ⟨_, _, p.spans_of_pos filled, p.covers_of_complete filled⟩

structure Account.TellsOf (a : Account) (p : Page) (total : Nat) (items : List Item) : Prop where
  number : a.metadata.get? "current_page" = some (.int p.number)
  size : a.metadata.get? "per_page" = some (.int p.size)
  hits : a.metadata.get? "total" = some (.int total)
  lastPage : a.metadata.get? "last_page" = some (.int (p.lastPage total))
  first : a.metadata.get? "from" = some (.ofCount? (p.firstItem? items.length))
  last : a.metadata.get? "to" = some (.ofCount? (p.lastItem? items.length))
  more : a.metadata.get? "has_more_pages" = some (.bool (p.hasMore total))
  items : a.data = items

theorem account_tellsOf (p : Page) (total : Nat) (items : List Item) :
    (p.account total items).TellsOf p total items :=
  ⟨rfl, rfl, rfl, rfl, rfl, rfl, rfl, rfl⟩

end Page

namespace Board

theorem lookup_pagers_of_pages {b : Board} {name : String} {page : Page}
    (found : b.pages.lookup name = some page) :
    ∃ pager, b.pagers.lookup name = some pager ∧ pager.page = page := by
  rw [lookup_pages, Option.map_eq_some_iff] at found
  exact found

/-- A paginator may be made at any point of a run over a result, with any size and number from one
on. Whatever is done from then on with the hits, all that it says of its page agrees, for the total
of the result and the items as they are, and its account tells the same. -/
theorem metadata_agree (r : Result) (before : List BoardStep) {size number : Nat}
    (sized : 0 < size) (counted : 0 < number) (name : String) {later : List BoardStep}
    (kept : ∀ step ∈ later, ∀ size number, step ≠ .paginate size number name) :
    ∃ made pager items,
      ((ofResult r).final before).step (.paginate (.int size) (.int number) name) =
        (.ok none, made) ∧
      (made.final later).pagers.lookup name = some pager ∧
      pager.page = ⟨size, number, sized, counted⟩ ∧
      (made.final later).summary = r.summary ∧
      (made.final later).seen (.items name) = .ok items ∧
      (made.final later).seen .hits = .ok items ∧
      pager.page.Agrees r.summary.totalHits items.length ∧
      (pager.page.account r.summary.totalHits items).TellsOf pager.page r.summary.totalHits
        items := by
  let page : Page := ⟨size, number, sized, counted⟩
  let start := (ofResult r).final before
  let made : Board := { start with pagers := named start.pagers name ⟨page, start.slot⟩ }
  have summary (step : BoardStep) (b : Board) (sound : b.Sound) (same : b.summary = r.summary) :
      (b.step step).2.summary = r.summary := (sound.summary_step step).trans same
  obtain ⟨sound, same⟩ := (sound_ofResult r).final_invariant
    (fun step (_ : step ∈ before) b => summary step b) rfl
  have taken : start.step (.paginate (.int size) (.int number) name) = (.ok none, made) := by
    rw [step_eq_ok, change, Page.ofArguments_of_pos sized counted]
    rfl
  have soundMade : made.Sound := sound.of_moves (sound.moves taken)
  have shown : made.pages.lookup name = some page := by
    rw [lookup_pages, lookup_named, if_pos rfl]
    rfl
  obtain ⟨soundLast, sameLast⟩ := soundMade.final_invariant
    (fun step (_ : step ∈ later) b => summary step b) same
  have held : (made.final later).pages.lookup name = some page :=
    (soundMade.sharing.pages name later kept).trans shown
  obtain ⟨pager, found, paged⟩ := lookup_pagers_of_pages held
  obtain ⟨number, shows⟩ := soundLast.sharing.one
  refine ⟨made, pager, (made.final later).cell number, taken, found, paged, sameLast, ?_, ?_,
    pager.page.agrees _ _, pager.page.account_tellsOf _ _⟩
  · rw [seen, shows.items name ⟨pager, pager_eq_ok.mpr found⟩, map_ok]
  · rw [seen, shows.hits, map_ok]

theorem metadata_agree_replaced :
    let r : Result := ⟨⟨97, .null, .null, [], []⟩, []⟩
    let b := (ofResult r).final
      [.paginate (.int 25) (.int 4) "last", .replaceHits (.value (.arr (.replicate 22 .null)))]
    ∃ pager items, b.pagers.lookup "last" = some pager ∧ b.seen (.items "last") = .ok items ∧
      pager.page.lastPage 97 = 4 ∧ pager.page.Spans items.length 76 97 ∧
      pager.page.Covers 97 76 97 ∧ pager.page.hasMore 97 = false := by
  intro r b
  have kept : ∀ step ∈ [BoardStep.replaceHits (.value (.arr (.replicate 22 .null)))],
      ∀ size number, step ≠ .paginate size number "last" :=
    List.forall_mem_singleton.mpr fun _ _ => nofun
  obtain ⟨made, pager, items, taken, found, paged, _, shown, _, agrees, _⟩ :=
    metadata_agree r [] (Nat.zero_lt_succ 24) (Nat.zero_lt_succ 3) "last" kept
  have after : b = made.final [.replaceHits (.value (.arr (.replicate 22 .null)))] :=
    congrArg (fun done : _ × Board => done.2.final _) taken
  rw [← after] at found shown
  have count : items.length = 22 := by
    rw [← Except.ok.inj shown]
    rfl
  have pages : pager.page.lastPage 97 = 4 := by
    rw [paged]
    rfl
  obtain ⟨first, last, spans, covers⟩ := agrees.covered (by rw [count, paged]; rfl) (by omega)
  have begins : first = 76 := by
    have told := spans.first
    rw [count, paged] at told
    exact (Option.some.inj told).symm
  have ends : last = 97 := by
    have told := spans.last
    rw [count, paged] at told
    exact (Option.some.inj told).symm
  subst begins ends
  refine ⟨pager, items, found, shown, pages, spans, covers, ?_⟩
  rw [← Bool.not_eq_true, covers.more]
  exact Nat.lt_irrefl 97

end Board

end SearchRequest
