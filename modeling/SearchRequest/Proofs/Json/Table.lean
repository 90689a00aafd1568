import Mathlib.Data.List.Forall2
import SearchRequest.Proofs.Outcome
import SearchRequest.Json.Shape

/-!
Tables that a list of pairs is read into. Values that are the same key have one entry between them,
at the place and in the spelling of the first of their pairs and with the value of the last.
-/

namespace SearchRequest.Json

/-- What a value is as a key. -/
def keyForm (value : Json) : (Int ⊕ Decimal) ⊕ Json :=
  match sameKey.number? value with
  | some number => .inl number
  | none => .inr value

theorem sameKey_eq (a b : Json) : sameKey a b = decide (a.keyForm = b.keyForm) := by
  have numbers (m n : Int ⊕ Decimal) : (m == n) = decide (m = n) := by
    rw [Bool.eq_iff_iff, decide_eq_true_iff]
    cases m <;> cases n <;> simp [BEq.beq, Sum.instBEq.beq]
  unfold sameKey keyForm
  cases sameKey.number? a <;> cases sameKey.number? b <;> simp [numbers, beq_eq_decide]

theorem lookup?_cons (pair : Json × Json) (rest : Table) (key : Json) :
    lookup? (pair :: rest) key = if sameKey pair.1 key then some pair.2 else lookup? rest key := by
  cases same : sameKey pair.1 key <;> simp [lookup?, same]

theorem lookup?_append (first second : Table) (key : Json) :
    lookup? (first ++ second) key = (lookup? first key).or (lookup? second key) := by
  induction first with
  | nil => simp [lookup?]
  | cons pair rest ih =>
    rw [List.cons_append, lookup?_cons, lookup?_cons, ih]
    cases sameKey pair.1 key <;> simp

theorem isSome_lookup? (table : Table) (key : Json) :
    (lookup? table key).isSome = table.any fun pair => sameKey pair.1 key := by
  induction table with
  | nil => rfl
  | cons pair rest ih =>
    rw [lookup?_cons, List.any_cons, ← ih]
    cases sameKey pair.1 key <;> simp

theorem lookup?_revised (table : Table) (key value other : Json) :
    lookup? (table.map fun pair => if sameKey pair.1 key then (pair.1, value) else pair) other =
      if sameKey key other then (lookup? table other).map fun _ => value
      else lookup? table other := by
  induction table with
  | nil => simp [lookup?]
  | cons pair rest ih =>
    rw [List.map_cons, lookup?_cons, lookup?_cons, ih]
    simp only [sameKey_eq, decide_eq_true_eq]
    by_cases here : pair.1.keyForm = key.keyForm
    · by_cases there : key.keyForm = other.keyForm <;> simp [here, there]
    · by_cases there : key.keyForm = other.keyForm
      · have apart : pair.1.keyForm ≠ other.keyForm := fun same => here (same.trans there.symm)
        simp [there, apart]
      · simp [here, there]

theorem lookup?_insertPair (table : Table) (key value other : Json) :
    lookup? (insertPair table key value) other =
      if sameKey key other then some value else lookup? table other := by
  have related : sameKey key other = true →
      lookup? table other = lookup? table key := fun same => by
    simp only [sameKey_eq, decide_eq_true_eq] at same
    simp only [lookup?, sameKey_eq, same]
  unfold insertPair
  rw [← isSome_lookup?]
  cases found : lookup? table key with
  | some old =>
    rw [Option.isSome_some, if_pos rfl, lookup?_revised]
    split
    · rename_i same
      rw [related same, found, Option.map_some]
    · rfl
  | none =>
    rw [Option.isSome_none, if_neg Bool.false_ne_true, lookup?_append, lookup?_cons]
    split
    · rename_i same
      rw [related same, found, Option.none_or]
    · simp [lookup?]

def firsts : List Json → List Json
  | [] => []
  | key :: rest => key :: (firsts rest).filter fun other => !sameKey key other

theorem firsts_append_singleton (keys : List Json) (key : Json) :
    firsts (keys ++ [key]) =
      if keys.any fun other => sameKey other key then firsts keys else firsts keys ++ [key] := by
  induction keys with
  | nil => rfl
  | cons first rest ih =>
    rw [List.cons_append, firsts, ih, List.any_cons, firsts]
    cases known : rest.any fun other => sameKey other key
    · cases same : sameKey first key <;> simp [same]
    · simp

theorem keys_insertPair (table : Table) (key value : Json) :
    (insertPair table key value).map (·.1) =
      if table.any fun pair => sameKey pair.1 key then table.map (·.1)
      else table.map (·.1) ++ [key] := by
  unfold insertPair
  split
  · rw [List.map_map]
    refine List.map_congr_left fun pair _ => ?_
    cases same : sameKey pair.1 key <;> simp [same]
  · rw [List.map_append, List.map_cons, List.map_nil]

/-- The table has the keys of the pairs, each with the value that it was last paired with. -/
structure Collects (table pairs : Table) : Prop where
  keys : table.map (·.1) = firsts (pairs.map (·.1))
  last : ∀ key, lookup? table key = lookup? pairs.reverse key

theorem Collects.insertPair {table pairs : Table} (collects : Collects table pairs)
    (key value : Json) : Collects (insertPair table key value) (pairs ++ [(key, value)]) where
  keys := by
    have known : (table.any fun pair => sameKey pair.1 key) =
        (pairs.map (·.1)).any fun other => sameKey other key := by
      rw [← isSome_lookup?, collects.last, isSome_lookup?, List.any_reverse, List.any_map]
      rfl
    rw [keys_insertPair, List.map_append, List.map_cons, List.map_nil, firsts_append_singleton,
      known, collects.keys]
  last other := by
    rw [lookup?_insertPair, List.reverse_append, List.reverse_singleton, List.singleton_append,
      lookup?_cons, collects.last]

def Pairs (item : Json) (pair : Json × Json) : Prop :=
  item.elements? = some [pair.1, pair.2] ∧ pair.1.isScalar = true

theorem readPairs_cons_eq_ok {item : Json} {done table : Table} {rest : List Json}
    (read : readPairs done (item :: rest) = .ok table) :
    ∃ pair, item.Pairs pair ∧ readPairs (insertPair done pair.1 pair.2) rest = .ok table := by
  unfold readPairs at read
  split at read
  · cases read
  · rename_i key value two
    split at read
    · rename_i scalar
      exact ⟨(key, value), ⟨two, scalar⟩, read⟩
    · cases read
  · cases read

theorem collects_of_readPairs {items : List Json} {done table before : Table}
    (collects : Collects done before) (read : readPairs done items = .ok table) :
    ∃ pairs, List.Forall₂ Pairs items pairs ∧ Collects table (before ++ pairs) := by
  induction items generalizing done before with
  | nil =>
    cases read
    exact ⟨[], .nil, by rwa [List.append_nil]⟩
  | cons item rest ih =>
    obtain ⟨pair, paired, onward⟩ := readPairs_cons_eq_ok read
    obtain ⟨pairs, others, collected⟩ := ih (collects.insertPair pair.1 pair.2) onward
    refine ⟨pair :: pairs, .cons paired others, ?_⟩
    rwa [List.append_assoc] at collected

end SearchRequest.Json
