import Mathlib.Algebra.Order.Floor.Div
import Mathlib.Order.Interval.Finset.Nat
import SearchRequest.Result.Page

/-!
Arithmetic of pages. The numbers lead from the first page to the last and back again, and the
windows of all pages part the hits among themselves.
-/

namespace SearchRequest

namespace Page

theorem counted?_eq_some {value : Json} {count : { n : Nat // 0 < n }} :
    counted? value = some count ↔ value = .int count.1 := by
  obtain ⟨n, positive⟩ := count
  obtain ⟨before, rfl⟩ : ∃ before, n = before + 1 := ⟨n - 1, by omega⟩
  constructor
  · intro counted
    unfold counted? at counted
    split at counted <;> cases counted
    rfl
  · rintro rfl
    rfl

theorem ofArguments_of_pos {size number : Nat} (sized : 0 < size) (counted : 0 < number) :
    ofArguments (.int size) (.int number) = .ok ⟨size, number, sized, counted⟩ := by
  have first := (@counted?_eq_some _ ⟨size, sized⟩).mpr rfl
  have second := (@counted?_eq_some _ ⟨number, counted⟩).mpr rfl
  rw [ofArguments, first, second]
  rfl

theorem lastPage_eq_ceilDiv (p : Page) (total : Nat) : p.lastPage total = total ⌈/⌉ p.size := rfl

/-- How many pages there are to read: a first one also when there are no hits. -/
def count (limit total : Nat) : Nat := max 1 (total ⌈/⌉ limit)

theorem count_pos (limit total : Nat) : 0 < count limit total :=
  Nat.lt_of_lt_of_le Nat.one_pos (le_max_left _ _)

theorem le_mul_count {limit : Nat} (positive : 0 < limit) (total : Nat) :
    total ≤ limit * count limit total := by
  rw [← ceilDiv_le_iff_le_mul positive]
  exact le_max_right _ _

def following (count number : Nat) : Option Nat :=
  if number < count then some (number + 1) else none

def preceding (number : Nat) : Option Nat := if 1 < number then some (number - 1) else none

theorem next?_eq_following (p : Page) (total : Nat) :
    p.next? total = following (count p.size total) p.number := by
  have further : p.number < p.lastPage total ↔ p.number < count p.size total := by
    have positive := p.number_pos
    rw [lastPage_eq_ceilDiv, count]
    omega
  simp only [next?, hasMore, decide_eq_true_eq, further, following]

theorem following_pos {count number next : Nat} (led : following count number = some next) :
    0 < next := by
  unfold following at led
  split at led <;> cases led
  omega

theorem preceding_pos {number next : Nat} (led : preceding number = some next) : 0 < next := by
  unfold preceding at led
  split at led <;> cases led
  omega

/-- The numbers that one step after another leads to, at most so many of them. -/
def trail (turn : Nat → Option Nat) : Nat → Option Nat → List Nat
  | 0, _ => []
  | _, none => []
  | most + 1, some number => number :: trail turn most (turn number)

theorem trail_following {count number : Nat} (inside : number ≤ count) (most : Nat) :
    trail (following count) most (some number) =
      (List.range' number (count + 1 - number)).take most := by
  induction most generalizing number with
  | zero => rfl
  | succ most ih =>
    rw [trail, following, Nat.succ_sub inside, List.range'_succ, List.take_succ_cons]
    by_cases further : number < count
    · rw [if_pos further, ih further, Nat.add_sub_add_right]
    · have done : count - number = 0 := by omega
      rw [if_neg further, done, List.range'_zero, List.take_nil]
      cases most <;> rfl

theorem trail_preceding {number : Nat} (counted : 0 < number) (most : Nat) :
    trail preceding most (some number) = (List.range' 1 number).reverse.take most := by
  induction most generalizing number with
  | zero => rfl
  | succ most ih =>
    obtain ⟨before, rfl⟩ : ∃ before, number = before + 1 := ⟨number - 1, by omega⟩
    rw [trail, preceding, List.range'_1_concat, List.reverse_append, List.reverse_singleton,
      List.singleton_append, List.take_succ_cons, Nat.add_comm 1 before]
    by_cases further : 1 < before + 1
    · rw [if_pos further, Nat.add_sub_cancel, ih (by omega)]
    · have done : before = 0 := by omega
      subst done
      cases most <;> rfl

end Page

/-- The hits that a request asks for: how many are skipped, and how many are wanted. -/
structure Window where
  offset : Nat
  size : Nat
deriving DecidableEq, Repr

namespace Window

def places (w : Window) (total : Nat) : Finset Nat :=
  Finset.Ico w.offset (w.offset + w.size) ∩ Finset.range total

def ofPage (limit number : Nat) : Window := ⟨limit * (number - 1), limit⟩

theorem mem_places_ofPage {limit number : Nat} (positive : 0 < limit) (counted : 0 < number)
    (total place : Nat) :
    place ∈ (ofPage limit number).places total ↔ place / limit + 1 = number ∧ place < total := by
  obtain ⟨before, rfl⟩ : ∃ before, number = before + 1 := ⟨number - 1, by omega⟩
  have quotient :
      place / limit = before ↔ limit * before ≤ place ∧ place < limit * before + limit := by
    rw [Nat.div_eq_iff positive, Nat.mul_comm before limit]
    omega
  simp only [places, ofPage, Finset.mem_inter, Finset.mem_Ico, Finset.mem_range,
    Nat.add_sub_cancel, ← quotient, Nat.add_right_cancel_iff]

def upTo (limit count : Nat) : List Window := (List.range' 1 count).map (ofPage limit)

theorem pairwise_disjoint_upTo {limit : Nat} (positive : 0 < limit) (count total : Nat) :
    (upTo limit count).Pairwise fun a b => Disjoint (a.places total) (b.places total) := by
  rw [upTo, List.pairwise_map]
  have distinct : (List.range' 1 count).Pairwise (· ≠ ·) := List.nodup_range'
  refine distinct.imp_of_mem fun {first second} firstListed secondListed differs => ?_
  have firstCounted : 0 < first := by
    have listed := List.mem_range'.mp firstListed
    omega
  have secondCounted : 0 < second := by
    have listed := List.mem_range'.mp secondListed
    omega
  rw [Finset.disjoint_left]
  intro place inFirst inSecond
  rw [mem_places_ofPage positive firstCounted] at inFirst
  rw [mem_places_ofPage positive secondCounted] at inSecond
  exact differs (inFirst.1.symm.trans inSecond.1)

theorem exists_mem_upTo {limit : Nat} (positive : 0 < limit) {count total : Nat}
    (enough : total ≤ limit * count) (place : Nat) :
    (∃ window ∈ upTo limit count, place ∈ window.places total) ↔ place < total := by
  constructor
  · rintro ⟨window, _, listed⟩
    exact Finset.mem_range.mp (Finset.mem_inter.mp listed).2
  · intro below
    have page : place / limit + 1 ≤ count := by
      have bound : place / limit < count :=
        Nat.div_lt_of_lt_mul (below.trans_le enough)
      omega
    refine ⟨ofPage limit (place / limit + 1), List.mem_map_of_mem ?_, ?_⟩
    · rw [List.mem_range'_1, Nat.add_comm 1 count]
      exact ⟨Nat.succ_pos _, Nat.lt_succ_of_le page⟩
    · rw [mem_places_ofPage positive (Nat.succ_pos _)]
      exact ⟨rfl, below⟩

end Window

end SearchRequest
