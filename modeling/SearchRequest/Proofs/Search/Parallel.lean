import SearchRequest.Connection.Step
import SearchRequest.Proofs.Search.Logging
import SearchRequest.Proofs.Search.Sending

/-!
Two worlds side by side. Where two links answer alike, every step on a search or a scoring comes to
the same over them: to the same answer or error, the same search, the same requests and the same
events. Such a step logs nothing but events of its own and events of the link.
-/

namespace SearchRequest

/-- The outcomes give the same and report the same, and the states that they leave are related.
Every event that was logged satisfies the condition. -/
structure Outcome.Matches {σ τ α : Type} (R : σ → τ → Prop) (E : Event → Bool) (o : Outcome σ α)
    (p : Outcome τ α) : Prop where
  result : o.result = p.result
  state : R o.state p.state
  report : o.report = p.report
  logs : o.Logs E

namespace Outcome.Matches

variable {σ τ ρ υ α β : Type} {R : σ → τ → Prop} {S : ρ → υ → Prop} {E : Event → Bool}
  {o : Outcome σ α} {p : Outcome τ α}

theorem fail {s : σ} {t : τ} (related : R s t) {failure : Failure} :
    (Outcome.fail s failure : Outcome σ α).Matches R E (.fail t failure) :=
  ⟨rfl, related, rfl, logs_of_none rfl⟩

theorem succeed {s : σ} {t : τ} (related : R s t) {value : α} :
    (Outcome.succeed s value).Matches R E (.succeed t value) :=
  ⟨rfl, related, rfl, logs_of_none rfl⟩

theorem andThen (first : o.Matches R E p) {next : α → σ → Outcome σ β} {other : α → τ → Outcome τ β}
    (onward : ∀ value s t, R s t → (next value s).Matches R E (other value t)) :
    (o.andThen next).Matches R E (p.andThen other) := by
  cases result : o.result with
  | error failure =>
    rw [andThen_of_error result, andThen_of_error (first.result.symm.trans result)]
    exact ⟨rfl, first.state, first.report, first.logs⟩
  | ok value =>
    have after := onward value _ _ first.state
    rw [andThen_of_ok result, andThen_of_ok (first.result.symm.trans result)]
    refine ⟨after.result, after.state, ?_, fun e listed => ?_⟩
    · rw [first.report, after.report]
    · exact (List.mem_append.mp listed).elim (first.logs e) (after.logs e)

theorem within (first : o.Matches R E p) {embed : σ → ρ} {other : τ → υ}
    (embeds : ∀ s t, R s t → S (embed s) (other t)) :
    (o.within embed).Matches S E (p.within other) :=
  ⟨first.result, embeds _ _ first.state, first.report, first.logs⟩

theorem noting (first : o.Matches R E p) {earlier : Report}
    (before : ∀ e ∈ earlier.events, E e = true) :
    (o.noting earlier).Matches R E (p.noting earlier) where
  result := first.result
  state := first.state
  report := congrArg (earlier ++ ·) first.report
  logs e listed := (List.mem_append.mp listed).elim (before e) (first.logs e)

end Outcome.Matches

namespace Link

def act (l : Link) (t : ConnectionStep) : Outcome Link Json :=
  match l with
  | .managed c => (t.run c).within .managed
  | other => .fail other .noOperation

/-- Related links come to the same in all that is done with them, and what they log satisfies the
condition, as all other events do. -/
structure Parallel (R : Link → Link → Prop) (E : Event → Bool) : Prop where
  absent : ∀ {l m}, R l m → l.isAbsent = m.isAbsent
  search : ∀ {l m}, R l m → ∀ index docType body,
    (l.search index docType body).Matches R E (m.search index docType body)
  close : ∀ {l m}, R l m → l.close.Matches R E m.close
  act : ∀ {l m}, R l m → ∀ t, (l.act t).Matches R E (m.act t)
  others : ∀ e : Event, e.ofConnection = false → E e = true

end Link

structure World.Alike (R : Link → Link → Prop) (w v : World) : Prop where
  link : R w.link v.link
  others : v = w.withLink v.link

def World.Beside {σ : Type} (R : Link → Link → Prop) (a b : World × σ) : Prop :=
  a.1.Alike R b.1 ∧ a.2 = b.2

namespace World

variable {R : Link → Link → Prop} {w v : World}

theorem Alike.withLink (alike : w.Alike R v) {l m : Link} (related : R l m) :
    (w.withLink l).Alike R (v.withLink m) :=
  ⟨related, (congrArg (World.withLink · m) alike.others).trans rfl⟩

theorem page_withLink (w : World) (link : Link) (limit number : Json) :
    (w.withLink link).page limit number =
      ((w.page limit number).1, (w.page limit number).2.withLink link) := by
  unfold page
  dsimp only [World.withLink]
  cases Page.counted? (if limit.isNull then w.defaultPageSize else limit) with
  | none => rfl
  | some size =>
    dsimp only
    cases Page.counted? (if number.isNull then w.pages.next else (number, w.pages)).1 <;> rfl

theorem Alike.page (alike : w.Alike R v) (limit number : Json) :
    ∃ after, v.page limit number = ((w.page limit number).1, after) ∧
      (w.page limit number).2.Alike R after := by
  have same := w.page_withLink v.link limit number
  rw [← alike.others] at same
  refine ⟨_, same, ?_, rfl⟩
  rw [w.link_page]
  exact alike.link

end World

theorem Outcome.Matches.handedTo {σ τ : Type} {R : Link → Link → Prop} {E : Event → Bool}
    {o p : Outcome (World × τ) Unit} (built : o.Matches (World.Beside R) E p) (owner : σ) :
    (o.handedTo owner).Matches (World.Beside R) E (p.handedTo owner) where
  result := by
    change o.result.map _ = p.result.map _
    rw [built.result, built.state.2]
  state := ⟨built.state.1, rfl⟩
  report := built.report
  logs := built.logs

namespace AggregationStep

variable {E : Event → Bool}

theorem run_logs (others : ∀ e : Event, e.ofConnection = false → E e = true)
    (step : AggregationStep) (d : Document) : (step.run d).Logs E := by
  have inserted (attempt : Except Failure Aggregation) : (inserted d attempt).Logs E := by
    cases attempt with
    | error failure => exact Outcome.logs_of_none rfl
    | ok a =>
      simp only [AggregationStep.inserted, Document.overriding]
      split
      · exact Outcome.logs_of_none rfl
      · exact Outcome.logs_of_single rfl (others _ rfl)
  cases step with
  | add kind args => exact inserted _
  | append spec => exact inserted _
  | _ => exact Outcome.logs_of_none rfl

theorem runAll_logs (others : ∀ e : Event, e.ofConnection = false → E e = true)
    (steps : List AggregationStep) (d : Document) : (runAll steps d).Logs E := by
  induction steps generalizing d with
  | nil => exact Outcome.logs_of_none rfl
  | cons step rest ih => exact (run_logs others step d).andThen fun _ d => ih d

end AggregationStep

theorem Scoring.notes_log {E : Event → Bool}
    (others : ∀ e : Event, e.ofConnection = false → E e = true) (s : Scoring) :
    ∀ e ∈ s.notes.events, E e = true := by
  unfold notes
  split
  · intro e listed
    rw [List.mem_singleton.mp listed]
    exact others _ rfl
  · exact nofun

section Steps

variable {R : Link → Link → Prop} {E : Event → Bool} (links : Link.Parallel R E)

include links

namespace Search

variable {w v : World}

theorem send_matches (alike : w.Alike R v) (s : Search) :
    (s.send w).Matches (World.Alike R) E (s.send v) := by
  unfold send
  rw [links.absent alike.link]
  split
  · exact .fail alike
  · cases s.document.body with
    | error failure => exact .fail alike
    | ok body => exact (links.search alike.link _ _ _).within fun _ _ => alike.withLink

theorem execute_matches (alike : w.Alike R v) (s : Search) :
    (s.execute w).Matches (World.Alike R) E (s.execute v) := by
  refine (s.send_matches links alike).andThen fun payload w v after => ?_
  cases Result.ofPayload payload with
  | error failure => exact .fail after
  | ok result => exact ⟨rfl, after, rfl, Outcome.logs_of_single rfl (links.others _ rfl)⟩

theorem paginate_matches (alike : w.Alike R v) (s : Search) (limit number : Json) :
    (s.paginate w limit number).Matches (World.Beside R) E (s.paginate v limit number) := by
  obtain ⟨after, paged, still⟩ := alike.page limit number
  unfold paginate
  cases first : w.page limit number with
  | mk attempt before =>
    rw [first] at paged still
    rw [paged]
    cases attempt with
    | error failure => exact .fail ⟨still, rfl⟩
    | ok page =>
      have executed : (((s.onPage page).execute before).within fun w => (w, s.onPage page)).Matches
          (World.Beside R) E (((s.onPage page).execute after).within fun w => (w, s.onPage page)) :=
        ((s.onPage page).execute_matches links still).within fun _ _ related => ⟨related, rfl⟩
      refine executed.andThen fun result s t related => ?_
      exact ⟨rfl, related, rfl, Outcome.logs_of_single rfl (links.others _ rfl)⟩

end Search

namespace SearchStep

def Parallel (R : Link → Link → Prop) (E : Event → Bool) (step : SearchStep) : Prop :=
  ∀ (w v : World) (s : Search), w.Alike R v →
    (step.run w s).Matches (World.Beside R) E (step.run v s)

omit links in
theorem changed_matches {w v : World} (alike : w.Alike R v) (s : Search)
    (attempt : Except Failure Change) :
    (changed w s attempt).Matches (World.Beside R) E (changed v s attempt) := by
  cases attempt with
  | error failure => exact .fail ⟨alike, rfl⟩
  | ok change => exact .succeed ⟨alike, rfl⟩

omit links in
theorem runAll_matches {steps : List SearchStep} (each : ∀ step ∈ steps, step.Parallel R E)
    {w v : World} (alike : w.Alike R v) (s : Search) :
    (runAll steps w s).Matches (World.Beside R) E (runAll steps v s) := by
  induction steps generalizing w v s with
  | nil => exact .succeed ⟨alike, rfl⟩
  | cons step rest ih =>
    obtain ⟨first, others⟩ := List.forall_mem_cons.mp each
    rw [runAll, runAll]
    refine (first w v s alike).andThen fun _ before after related => ?_
    rw [← related.2]
    exact ih others related.1 before.2

end SearchStep

namespace ScoreStep

def Parallel (R : Link → Link → Prop) (E : Event → Bool) (step : ScoreStep) : Prop :=
  ∀ (w v : World) (s : Scoring), w.Alike R v →
    (step.run w s).Matches (World.Beside R) E (step.run v s)

omit links in
theorem runAll_matches {steps : List ScoreStep} (each : ∀ step ∈ steps, step.Parallel R E)
    {w v : World} (alike : w.Alike R v) (s : Scoring) :
    (runAll steps w s).Matches (World.Beside R) E (runAll steps v s) := by
  induction steps generalizing w v s with
  | nil => exact .succeed ⟨alike, rfl⟩
  | cons step rest ih =>
    obtain ⟨first, others⟩ := List.forall_mem_cons.mp each
    rw [runAll, runAll]
    refine (first w v s alike).andThen fun _ before after related => ?_
    rw [← related.2]
    exact ih others related.1 before.2

end ScoreStep

theorem SearchStep.parallel_of_parts {step : SearchStep}
    (building : ∀ inner ∈ step.building, inner.Parallel R E)
    (scoring : ∀ inner ∈ step.scoring, inner.Parallel R E) : step.Parallel R E := by
  intro w v s alike
  have beside : World.Beside R (w, s) (v, s) := ⟨alike, rfl⟩
  cases step with
  | edit e args => exact changed_matches alike s _
  | leaf kind args => exact changed_matches alike s _
  | append spec => exact changed_matches alike s _
  | nested args build =>
    cases build with
    | none =>
      simp only [run]
      cases Search.nestedSignature.bind args <;> exact .fail beside
    | some steps =>
      simp only [run]
      cases Search.nestedSignature.bind args with
      | error failure => exact .fail beside
      | ok a =>
        -- The inner steps begin on a fresh search on both sides, and may leave worlds of their own.
        have built := (runAll_matches building alike .fresh).handedTo s
        refine built.andThen fun sub before after related => ?_
        rw [nest, nest, ← related.2]
        exact changed_matches related.1 _ _
  | functions args build score =>
    cases build with
    | none =>
      simp only [run]
      cases Search.functionsSignature.bind args <;> exact .fail beside
    | some steps =>
      cases score with
      | none =>
        simp only [run]
        cases Search.functionsSignature.bind args <;> exact .fail beside
      | some rating =>
        simp only [run]
        cases Search.functionsSignature.bind args with
        | error failure => exact .fail beside
        | ok a =>
          have built := (runAll_matches building alike .fresh).handedTo s
          refine built.andThen fun sub before after related => ?_
          cases Scoring.start sub.document.query (a.field "parameters") with
          | error failure => exact .fail related
          | ok start =>
            have rated := (ScoreStep.runAll_matches scoring related.1 start).handedTo before.2
            rw [← related.2]
            refine rated.andThen fun scored _ _ last => ?_
            rw [addScored, addScored, ← last.2]
            exact (changed_matches last.1 _ _).noting (scored.notes_log links.others)
  | aggregate args build =>
    simp only [run, aggregated]
    cases Search.aggregateSignature.bind args with
    | error failure => exact .fail beside
    | ok a =>
      cases build with
      | none => exact .fail beside
      | some steps =>
        have added : ((AggregationStep.runAll steps s.document).within
            fun d => (w, s.withDocument d)).Matches (World.Beside R) E
            ((AggregationStep.runAll steps s.document).within fun d => (v, s.withDocument d)) :=
          ⟨rfl, ⟨alike, rfl⟩, rfl, AggregationStep.runAll_logs links.others steps s.document⟩
        exact added.andThen fun _ _ _ related => .succeed related
  | view part args => exact ⟨rfl, beside, rfl, Outcome.logs_of_none rfl⟩
  | fetch args =>
    simp only [run, fetched]
    cases noArguments.bind args with
    | error failure => exact .fail beside
    | ok a =>
      have sent : ((s.send w).within fun w => (w, s)).Matches (World.Beside R) E
          ((s.send v).within fun v => (v, s)) :=
        (s.send_matches links alike).within fun _ _ related => ⟨related, rfl⟩
      exact sent.andThen fun _ _ _ related => .succeed related
  | execute args =>
    simp only [run, executed]
    cases noArguments.bind args with
    | error failure => exact .fail beside
    | ok a =>
      have executed : ((s.execute w).within fun w => (w, s)).Matches (World.Beside R) E
          ((s.execute v).within fun v => (v, s)) :=
        (s.execute_matches links alike).within fun _ _ related => ⟨related, rfl⟩
      exact executed.andThen fun _ _ _ related => .succeed related
  | paginate args =>
    simp only [run, paginated]
    cases Search.paginateSignature.bind args with
    | error failure => exact .fail beside
    | ok a =>
      exact (s.paginate_matches links alike _ _).andThen fun _ _ _ related => .succeed related
  | observe => exact ⟨rfl, beside, rfl, Outcome.logs_of_none rfl⟩
  | part => exact .fail beside
  | unknown => exact .fail beside

theorem ScoreStep.parallel_of_parts {step : ScoreStep}
    (filtering : ∀ inner ∈ step.filtering, inner.Parallel R E) : step.Parallel R E := by
  intro w v s alike
  have beside : World.Beside R (w, s) (v, s) := ⟨alike, rfl⟩
  cases step with
  | add kind args filter =>
    cases filter with
    | none =>
      simp only [run]
      cases ScoreDraft.of kind args with
      | error failure => exact .fail beside
      | ok draft =>
        dsimp only
        split
        · exact .succeed ⟨alike, rfl⟩
        · exact .fail beside
    | some steps =>
      simp only [run]
      cases ScoreDraft.of kind args with
      | error failure => exact .fail beside
      | ok draft =>
        have built := (SearchStep.runAll_matches filtering alike .fresh).handedTo s
        refine built.andThen fun sub before after related => ?_
        rw [← related.2]
        exact .succeed ⟨related.1, rfl⟩
  | query args =>
    simp only [run]
    cases noArguments.bind args with
    | error failure => exact .fail beside
    | ok a => exact ⟨rfl, beside, rfl, s.notes_log links.others⟩
  | observe => exact ⟨rfl, beside, rfl, Outcome.logs_of_none rfl⟩
  | part => exact .fail beside
  | unknown => exact .fail beside

/-- Every step comes to the same in worlds that are alike. -/
theorem steps_parallel :
    (∀ step : SearchStep, step.Parallel R E) ∧ (∀ step : ScoreStep, step.Parallel R E) :=
  steps_induction (fun _ => SearchStep.parallel_of_parts links)
    fun _ => ScoreStep.parallel_of_parts links

end Steps

end SearchRequest
