import SearchRequest.Proofs.Search.Change
import SearchRequest.Proofs.Search.Nesting
import SearchRequest.Proofs.Search.Silent

/-!
Leaving out steps, also those inside other steps. A clause that is built silently is built alike,
in any world, by the steps that are kept, as long as the steps left out do not tell apart the
searches that the kept ones run on.
-/

namespace SearchRequest

section Thinned

variable (keeps : SearchStep → Bool)

mutual

/-- The step with only the steps inside it that are kept. -/
def SearchStep.thinned : SearchStep → SearchStep
  | .nested args build => .nested args (SearchStep.thinnedGiven build)
  | .functions args build score =>
      .functions args (SearchStep.thinnedGiven build) (ScoreStep.thinnedGiven score)
  | step => step

def SearchStep.thinnedGiven : Option (List SearchStep) → Option (List SearchStep)
  | some steps => some (SearchStep.thinnedAll steps)
  | none => none

def SearchStep.thinnedAll : List SearchStep → List SearchStep
  | [] => []
  | step :: rest =>
      if keeps step then SearchStep.thinned step :: SearchStep.thinnedAll rest
      else SearchStep.thinnedAll rest

def ScoreStep.thinned : ScoreStep → ScoreStep
  | .add kind args filter => .add kind args (SearchStep.thinnedGiven filter)
  | step => step

def ScoreStep.thinnedGiven : Option (List ScoreStep) → Option (List ScoreStep)
  | some steps => some (ScoreStep.thinnedAll steps)
  | none => none

def ScoreStep.thinnedAll : List ScoreStep → List ScoreStep
  | [] => []
  | step :: rest => ScoreStep.thinned step :: ScoreStep.thinnedAll rest

end

end Thinned

namespace Composite

def thinned (keeps : SearchStep → Bool) : Composite → Composite
  | nested args build => .nested args (SearchStep.thinnedGiven keeps build)
  | functions args build score =>
      .functions args (SearchStep.thinnedGiven keeps build) (ScoreStep.thinnedGiven keeps score)

theorem step_thinned (keeps : SearchStep → Bool) (c : Composite) :
    (c.thinned keeps).step = c.step.thinned keeps := by
  cases c <;> simp only [step, thinned, SearchStep.thinned]

def Builds (w after : World) (clause : Clause) : Composite → Prop
  | nested args build => ∃ a steps built, Search.nestedSignature.bind args = .ok a ∧
      build = some steps ∧ (SearchStep.runAll steps w .fresh).Gives () (after, built) ∧
      Clause.nested? (a.field "field") built.document.query (a.field "score_mode") (.obj []) =
        .ok clause
  | functions args build score => ∃ a steps scoring built middle start scored,
      Search.functionsSignature.bind args = .ok a ∧ build = some steps ∧ score = some scoring ∧
      (SearchStep.runAll steps w .fresh).Gives () (middle, built) ∧
      Scoring.start built.document.query (a.field "parameters") = .ok start ∧
      (ScoreStep.runAll scoring middle start).Gives () (after, scored) ∧ clause = scored.clause

theorem clause_of_builds {c : Composite} {w after : World} {clause : Clause}
    (builds : c.Builds w after clause) : c.clause w = .ok clause := by
  cases c with
  | nested args build =>
    obtain ⟨a, steps, built, bound, rfl, ran, made⟩ := builds
    simp only [Composite.clause, bound, stepsFor, bind_ok, ran.result, ran.state, made]
  | functions args build score =>
    obtain ⟨a, steps, scoring, built, middle, start, scored, bound, rfl, rfl, ran, started, rated,
      rfl⟩ := builds
    simp only [Composite.clause, bound, stepsFor, bind_ok, ran.result, ran.state, started,
      rated.result, rated.state]

theorem builds_of_nested {args : Object} {build : Option (List SearchStep)} {w : World} {s : Search}
    {answer : Answer} {after : World × Search}
    (done : ((SearchStep.nested args build).run w s).Gives answer after) :
    ∃ clause, (nested args build).Builds w after.1 clause ∧ answer = .nothing ∧
      after.2 = s.add clause := by
  cases bound : Search.nestedSignature.bind args with
  | error failure =>
    cases build <;> simp [SearchStep.run, bound] at done
  | ok a =>
    cases build with
    | none => simp [SearchStep.run, bound, SearchStep.notCallable] at done
    | some steps =>
      simp only [SearchStep.run, bound] at done
      obtain ⟨built, state, handed, nested⟩ := Outcome.gives_andThen.mp done
      obtain ⟨w', ran, rfl⟩ := Outcome.gives_handedTo.mp handed
      obtain ⟨change, made, rfl, rfl⟩ := SearchStep.gives_changed.mp nested
      obtain ⟨clause, accepted, rfl⟩ := SearchStep.mem_granted_added.mp
        (SearchStep.mem_granted.mpr made)
      exact ⟨clause, ⟨a, steps, built, bound, rfl, ran, accepted⟩, rfl, rfl⟩

theorem builds_of_functions {args : Object} {build : Option (List SearchStep)}
    {score : Option (List ScoreStep)} {w : World} {s : Search} {answer : Answer}
    {after : World × Search}
    (done : ((SearchStep.functions args build score).run w s).Gives answer after) :
    ∃ clause, (functions args build score).Builds w after.1 clause ∧ answer = .nothing ∧
      after.2 = s.add clause := by
  cases bound : Search.functionsSignature.bind args with
  | error failure =>
    cases build <;> cases score <;> simp [SearchStep.run, bound] at done
  | ok a =>
    cases build with
    | none => simp [SearchStep.run, bound, SearchStep.notCallable] at done
    | some steps =>
      cases score with
      | none => simp [SearchStep.run, bound, SearchStep.notCallable] at done
      | some scoring =>
        simp only [SearchStep.run, bound] at done
        obtain ⟨built, state, handed, rest⟩ := Outcome.gives_andThen.mp done
        obtain ⟨middle, ran, rfl⟩ := Outcome.gives_handedTo.mp handed
        split at rest
        · exact absurd rest Outcome.not_gives_fail
        · rename_i start started
          obtain ⟨scored, state, handed, finished⟩ := Outcome.gives_andThen.mp rest
          obtain ⟨w', rated, rfl⟩ := Outcome.gives_handedTo.mp handed
          obtain ⟨change, made, rfl, rfl⟩ :=
            SearchStep.gives_changed.mp (Outcome.gives_noting.mp finished).2
          cases made
          exact ⟨scored.clause, ⟨a, steps, scoring, built, middle, start, scored, bound, rfl, rfl,
            ran, started, rated, rfl⟩, rfl, rfl⟩

theorem gives_of_builds {c : Composite} {w after : World} {clause : Clause}
    (builds : c.Builds w after clause) (s : Search) :
    (c.step.run w s).Gives .nothing (after, s.add clause) := by
  cases c with
  | nested args build =>
    obtain ⟨a, steps, built, bound, rfl, ran, made⟩ := builds
    simp only [step, SearchStep.run, bound]
    refine Outcome.gives_andThen.mpr
      ⟨built, (after, s), Outcome.gives_handedTo.mpr ⟨after, ran, rfl⟩, ?_⟩
    exact SearchStep.gives_changed.mpr ⟨.clauses [clause], by rw [made]; rfl, rfl, rfl⟩
  | functions args build score =>
    obtain ⟨a, steps, scoring, built, middle, start, scored, bound, rfl, rfl, ran, started, rated,
      rfl⟩ := builds
    simp only [step, SearchStep.run, bound]
    refine Outcome.gives_andThen.mpr
      ⟨built, (middle, s), Outcome.gives_handedTo.mpr ⟨middle, ran, rfl⟩, ?_⟩
    simp only [started]
    refine Outcome.gives_andThen.mpr
      ⟨scored, (after, s), Outcome.gives_handedTo.mpr ⟨after, rated, rfl⟩, ?_⟩
    refine Outcome.gives_noting.mpr ⟨?_, SearchStep.gives_changed.mpr ⟨_, rfl, rfl, rfl⟩⟩
    unfold Scoring.notes
    split <;> rfl

theorem gives_step {c : Composite} {w : World} {s : Search} {answer : Answer}
    {after : World × Search} :
    (c.step.run w s).Gives answer after ↔
      ∃ clause, c.Builds w after.1 clause ∧ answer = .nothing ∧ after.2 = s.add clause := by
  constructor
  · intro done
    cases c with
    | nested args build => exact builds_of_nested done
    | functions args build score => exact builds_of_functions done
  · rintro ⟨clause, builds, rfl, added⟩
    obtain ⟨w', s'⟩ := after
    cases added
    exact gives_of_builds builds s

end Composite

/-- Which steps are kept, and when two searches are alike for them. -/
structure Thinning where
  keeps : SearchStep → Bool
  Alike : Search → Search → Prop
  fresh : Alike .fresh .fresh
  query {s t : Search} : Alike s t → s.document.query = t.document.query
  add {s t : Search} : Alike s t → ∀ clause, Alike (s.add clause) (t.add clause)
  composite (c : Composite) : keeps c.step = true
  kept {step : SearchStep} {w : World} {s t : Search} {answer : Answer} {after : World × Search} :
    keeps step = true → (∀ c : Composite, c.step ≠ step) → Alike s t →
    (step.run w s).Gives answer after →
    ∀ v, ∃ answer' t', (step.run v t).Gives answer' (v, t') ∧ Alike after.2 t'
  dropped {step : SearchStep} {w : World} {s t : Search} {answer : Answer}
    {after : World × Search} :
    keeps step = false → Alike s t → (step.run w s).Gives answer after → Alike after.2 t

namespace Thinning

variable (th : Thinning)

/-- Done silently, the step is done silently in every world on every search that is alike. -/
def Follows (step : SearchStep) : Prop :=
  ∀ w s answer after, (step.run w s).Gives answer after → th.keeps step = true →
    ∀ v t, th.Alike s t →
      ∃ answer' t', ((step.thinned th.keeps).run v t).Gives answer' (v, t') ∧ th.Alike after.2 t'

def FollowsOnScoring (step : ScoreStep) : Prop :=
  ∀ w s answer after, (step.run w s).Gives answer after →
    ∀ v, ∃ answer', ((step.thinned th.keeps).run v s).Gives answer' (v, after.2)

variable {th}

theorem follows_runAll {steps : List SearchStep} (each : ∀ step ∈ steps, th.Follows step)
    {w : World} {s t : Search} {after : World × Search} (alike : th.Alike s t)
    (ran : (SearchStep.runAll steps w s).Gives () after) (v : World) :
    ∃ t', (SearchStep.runAll (SearchStep.thinnedAll th.keeps steps) v t).Gives () (v, t') ∧
      th.Alike after.2 t' := by
  induction steps generalizing w s t with
  | nil =>
    obtain ⟨_, rfl⟩ := Outcome.gives_succeed.mp ran
    exact ⟨t, Outcome.gives_succeed.mpr ⟨rfl, rfl⟩, alike⟩
  | cons step rest ih =>
    obtain ⟨answer, middle, first, others⟩ := SearchStep.gives_runAll_cons.mp ran
    have restFollows := fun other listed => each other (List.mem_cons_of_mem step listed)
    rw [SearchStep.thinnedAll]
    by_cases kept : th.keeps step = true
    · obtain ⟨answer', t1, firstThinned, middleAlike⟩ :=
        each step List.mem_cons_self w s answer middle first kept v t alike
      obtain ⟨t', rest', alike'⟩ := ih restFollows middleAlike others
      rw [if_pos kept]
      exact ⟨t', SearchStep.gives_runAll_cons.mpr ⟨answer', (v, t1), firstThinned, rest'⟩, alike'⟩
    · rw [if_neg kept]
      exact ih restFollows (th.dropped (Bool.eq_false_iff.mpr kept) alike first) others

theorem follows_runAll_onScoring {steps : List ScoreStep}
    (each : ∀ step ∈ steps, th.FollowsOnScoring step) {w : World} {s : Scoring}
    {after : World × Scoring} (ran : (ScoreStep.runAll steps w s).Gives () after) (v : World) :
    (ScoreStep.runAll (ScoreStep.thinnedAll th.keeps steps) v s).Gives () (v, after.2) := by
  induction steps generalizing w s with
  | nil =>
    obtain ⟨_, rfl⟩ := Outcome.gives_succeed.mp ran
    exact Outcome.gives_succeed.mpr ⟨rfl, rfl⟩
  | cons step rest ih =>
    obtain ⟨answer, middle, first, others⟩ := ScoreStep.gives_runAll_cons.mp ran
    obtain ⟨answer', firstThinned⟩ := each step List.mem_cons_self w s answer middle first v
    have rest' := ih (fun other listed => each other (List.mem_cons_of_mem step listed)) others
    exact ScoreStep.gives_runAll_cons.mpr ⟨answer', (v, middle.2), firstThinned, rest'⟩

theorem builds_thinned {c : Composite} (building : ∀ step ∈ c.step.building, th.Follows step)
    (scoring : ∀ step ∈ c.step.scoring, th.FollowsOnScoring step) {w after : World}
    {clause : Clause} (builds : c.Builds w after clause) (v : World) :
    (c.thinned th.keeps).Builds v v clause := by
  cases c with
  | nested args build =>
    obtain ⟨a, steps, built, bound, rfl, ran, made⟩ := builds
    -- Both runs of the inner steps begin on a fresh search, so nothing is asked of the outer ones.
    obtain ⟨built', ran', alike⟩ := follows_runAll building th.fresh ran v
    rw [th.query alike] at made
    exact ⟨a, _, built', bound, rfl, ran', made⟩
  | functions args build score =>
    obtain ⟨a, steps, scores, built, middle, start, scored, bound, rfl, rfl, ran, started, rated,
      rfl⟩ := builds
    obtain ⟨built', ran', alike⟩ := follows_runAll building th.fresh ran v
    rw [th.query alike] at started
    have rated' := follows_runAll_onScoring scoring rated v
    exact ⟨a, _, _, built', v, start, scored, bound, rfl, rfl, ran', started, rated', rfl⟩

theorem follows_composite {c : Composite} (building : ∀ step ∈ c.step.building, th.Follows step)
    (scoring : ∀ step ∈ c.step.scoring, th.FollowsOnScoring step) : th.Follows c.step := by
  intro w s answer after ran _ v t alike
  obtain ⟨clause, builds, _, added⟩ := Composite.gives_step.mp ran
  have thinned := builds_thinned building scoring builds v
  refine ⟨.nothing, t.add clause, ?_, added ▸ th.add alike clause⟩
  rw [← Composite.step_thinned]
  exact Composite.gives_step.mpr ⟨clause, thinned, rfl, rfl⟩

theorem follows_simple {step : SearchStep} (simple : ∀ c : Composite, c.step ≠ step) :
    th.Follows step := by
  intro w s answer after ran kept v t alike
  have same : step.thinned th.keeps = step := by
    cases step with
    | nested args build => exact absurd rfl (simple (.nested args build))
    | functions args build score => exact absurd rfl (simple (.functions args build score))
    | _ => simp only [SearchStep.thinned]
  rw [same]
  exact th.kept kept simple alike ran v

theorem followsOnScoring_of_filtering {step : ScoreStep}
    (filtering : ∀ inner ∈ step.filtering, th.Follows inner) : th.FollowsOnScoring step := by
  intro w s answer after ran v
  cases step with
  | add kind args filter =>
    cases filter with
    | none =>
      simp only [ScoreStep.thinned, SearchStep.thinnedGiven, ScoreStep.run] at ran ⊢
      split at ran
      · exact absurd ran Outcome.not_gives_fail
      · split at ran
        · rename_i draft plain
          obtain ⟨_, rfl⟩ := Outcome.gives_succeed.mp ran
          exact ⟨.nothing, by simp only [plain, if_true]; exact ⟨rfl, rfl, rfl⟩⟩
        · exact absurd ran Outcome.not_gives_fail
    | some steps =>
      simp only [ScoreStep.thinned, SearchStep.thinnedGiven, ScoreStep.run] at ran ⊢
      split at ran
      · exact absurd ran Outcome.not_gives_fail
      · rename_i draft drafted
        obtain ⟨built, state, handed, added⟩ := Outcome.gives_andThen.mp ran
        obtain ⟨w', ran', rfl⟩ := Outcome.gives_handedTo.mp handed
        obtain ⟨_, rfl⟩ := Outcome.gives_succeed.mp added
        -- Only the query of the filter's search is kept, and thinning leaves it as it was.
        obtain ⟨built', thinned, alike⟩ := follows_runAll filtering th.fresh ran' v
        refine ⟨.nothing, Outcome.gives_andThen.mpr
          ⟨built', (v, s), Outcome.gives_handedTo.mpr ⟨v, thinned, rfl⟩, ?_⟩⟩
        exact Outcome.gives_succeed.mpr ⟨rfl, by rw [th.query alike]⟩
  | query args =>
    simp only [ScoreStep.thinned, ScoreStep.run] at ran ⊢
    split at ran
    · exact absurd ran Outcome.not_gives_fail
    · obtain ⟨result, rfl, silent⟩ := ran
      exact ⟨answer, result, rfl, silent⟩
  | observe =>
    obtain ⟨result, rfl, silent⟩ := ran
    exact ⟨answer, result, rfl, silent⟩
  | part => exact absurd ran Outcome.not_gives_fail
  | unknown => exact absurd ran Outcome.not_gives_fail

theorem follows_all : (∀ step, th.Follows step) ∧ (∀ step, th.FollowsOnScoring step) := by
  refine steps_induction ?_ fun step => followsOnScoring_of_filtering
  intro step building scoring
  by_cases composite : ∃ c : Composite, c.step = step
  · obtain ⟨c, rfl⟩ := composite
    exact follows_composite building scoring
  · exact follows_simple fun c same => composite ⟨c, same⟩

/-- Leaving out steps, also those inside other steps, leaves the clause as it was. -/
theorem clause_thinned (th : Thinning) {c : Composite} {w after : World} {clause : Clause}
    (builds : c.Builds w after clause) (v : World) :
    (c.thinned th.keeps).clause v = .ok clause :=
  Composite.clause_of_builds
    (builds_thinned (fun step _ => follows_all.1 step) (fun step _ => follows_all.2 step) builds v)

end Thinning

end SearchRequest
