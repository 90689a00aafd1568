import SearchRequest.Proofs.Outcome
import SearchRequest.Proofs.Search.Nesting

/-!
What holds of everything that is sent. A link that keeps a condition, and whose searches send only
requests of one kind, keeps it through every step on a search or a scoring, however deep the search
is sent from; and the steps send only requests of that kind.
-/

namespace SearchRequest

/-- The state that is left satisfies one condition, and each request that was sent another. -/
structure Outcome.Keeps {σ α : Type} (P : σ → Prop) (R : Request → Prop) (o : Outcome σ α) :
    Prop where
  state : P o.state
  requests : ∀ request ∈ o.report.requests, R request

namespace Outcome.Keeps

variable {σ τ α β : Type} {P : σ → Prop} {Q : τ → Prop} {R : Request → Prop} {o : Outcome σ α}

theorem of_silent (held : P o.state) (silent : o.report.requests = []) : o.Keeps P R :=
  ⟨held, by rw [silent]; exact nofun⟩

theorem of_single (held : P o.state) {request : Request} (single : o.report.requests = [request])
    (sent : R request) : o.Keeps P R := by
  refine ⟨held, fun other listed => ?_⟩
  rw [single] at listed
  rwa [List.mem_singleton.mp listed]

theorem fail {state : σ} {failure : Failure} (held : P state) :
    (Outcome.fail state failure : Outcome σ α).Keeps P R := of_silent held rfl

theorem succeed {state : σ} {value : α} (held : P state) :
    (Outcome.succeed state value).Keeps P R := of_silent held rfl

theorem andThen (first : o.Keeps P R) {next : α → σ → Outcome σ β}
    (onward : ∀ value state, P state → (next value state).Keeps P R) :
    (o.andThen next).Keeps P R := by
  refine ⟨andThen_invariant first.state fun value => (onward value _ first.state).state, ?_⟩
  intro request sent
  rcases mem_requests_andThen sent with before | ⟨value, _, after⟩
  · exact first.requests request before
  · exact (onward value _ first.state).requests request after

theorem within (first : o.Keeps P R) {embed : σ → τ} (embeds : ∀ state, P state → Q (embed state)) :
    (o.within embed).Keeps Q R := ⟨embeds _ first.state, first.requests⟩

theorem noting (first : o.Keeps P R) {earlier : Report}
    (before : ∀ request ∈ earlier.requests, R request) : (o.noting earlier).Keeps P R :=
  ⟨first.state, fun request sent =>
    (List.mem_append.mp sent).elim (before request) (first.requests request)⟩

theorem noting_request (first : o.Keeps P R) {request : Request} (sent : R request) :
    (o.noting (.ofRequest request)).Keeps P R :=
  first.noting fun other listed => by rwa [List.mem_singleton.mp listed]

end Outcome.Keeps

namespace AggregationStep

theorem requests_run (step : AggregationStep) (d : Document) :
    (step.run d).report.requests = [] := by
  have inserted (attempt : Except Failure Aggregation) :
      (inserted d attempt).report.requests = [] := by
    cases attempt with
    | error failure => rfl
    | ok a =>
      simp only [AggregationStep.inserted, Document.overriding]
      split <;> rfl
  cases step with
  | add kind args => exact inserted _
  | append spec => exact inserted _
  | _ => rfl

theorem requests_runAll (steps : List AggregationStep) (d : Document) :
    (runAll steps d).report.requests = [] := by
  induction steps generalizing d with
  | nil => rfl
  | cons step rest ih =>
    rw [runAll, Outcome.requests_andThen fun _ d => ih d]
    exact step.requests_run d

end AggregationStep

theorem Scoring.requests_notes (s : Scoring) : s.notes.requests = [] := by
  unfold notes
  split <;> rfl

theorem World.link_page (w : World) (limit number : Json) :
    (w.page limit number).2.link = w.link := by
  unfold page
  dsimp only
  split
  · rfl
  · split <;> split <;> rfl

def Linked {σ : Type} (P : Link → Prop) (state : World × σ) : Prop := P state.1.link

section Steps

variable {P : Link → Prop} {R : Request → Prop}

theorem Outcome.Keeps.handedTo {σ τ : Type} {o : Outcome (World × τ) Unit}
    (built : o.Keeps (Linked P) R) (owner : σ) : (o.handedTo owner).Keeps (Linked P) R :=
  ⟨built.state, built.requests⟩

variable (asks : ∀ (l : Link) (index docType : Option String) (body : Object), P l →
  (l.search index docType body).Keeps P R)

include asks

namespace Search

theorem send_keeps (s : Search) {w : World} (held : P w.link) :
    (s.send w).Keeps (fun w => P w.link) R := by
  unfold send
  split
  · exact .fail held
  · split
    · exact .fail held
    · exact (asks _ _ _ _ held).within fun _ after => after

theorem execute_keeps (s : Search) {w : World} (held : P w.link) :
    (s.execute w).Keeps (fun w => P w.link) R := by
  refine (s.send_keeps asks held).andThen fun payload w after => ?_
  split
  · exact .fail after
  · exact .of_silent after rfl

theorem paginate_keeps (s : Search) {w : World} (held : P w.link) (limit number : Json) :
    (s.paginate w limit number).Keeps (Linked P) R := by
  have held : P (w.page limit number).2.link := by rwa [w.link_page]
  unfold paginate
  split
  · rename_i failure after paged
    rw [paged] at held
    exact .fail held
  · rename_i page after paged
    rw [paged] at held
    have executed : (((s.onPage page).execute after).within fun w => (w, s.onPage page)).Keeps
        (Linked P) R := ((s.onPage page).execute_keeps asks held).within fun _ after => after
    exact executed.andThen fun _ _ after => .of_silent after rfl

end Search

namespace SearchStep

def Sends (P : Link → Prop) (R : Request → Prop) (step : SearchStep) : Prop :=
  ∀ (w : World) (s : Search), P w.link → (step.run w s).Keeps (Linked P) R

omit asks in
theorem changed_keeps {w : World} (held : P w.link) (s : Search) (attempt : Except Failure Change) :
    (changed w s attempt).Keeps (Linked P) R := by
  cases attempt with
  | error failure => exact .fail held
  | ok change => exact .succeed held

omit asks in
theorem runAll_keeps {steps : List SearchStep} (each : ∀ step ∈ steps, step.Sends P R) {w : World}
    (held : P w.link) (s : Search) : (runAll steps w s).Keeps (Linked P) R := by
  induction steps generalizing w s with
  | nil => exact .succeed held
  | cons step rest ih =>
    obtain ⟨first, others⟩ := List.forall_mem_cons.mp each
    rw [runAll]
    exact (first w s held).andThen fun _ state after => ih others after state.2

end SearchStep

namespace ScoreStep

def Sends (P : Link → Prop) (R : Request → Prop) (step : ScoreStep) : Prop :=
  ∀ (w : World) (s : Scoring), P w.link → (step.run w s).Keeps (Linked P) R

omit asks in
theorem runAll_keeps {steps : List ScoreStep} (each : ∀ step ∈ steps, step.Sends P R) {w : World}
    (held : P w.link) (s : Scoring) : (runAll steps w s).Keeps (Linked P) R := by
  induction steps generalizing w s with
  | nil => exact .succeed held
  | cons step rest ih =>
    obtain ⟨first, others⟩ := List.forall_mem_cons.mp each
    rw [runAll]
    exact (first w s held).andThen fun _ state after => ih others after state.2

end ScoreStep

theorem SearchStep.sends_of_parts {step : SearchStep}
    (building : ∀ inner ∈ step.building, inner.Sends P R)
    (scoring : ∀ inner ∈ step.scoring, inner.Sends P R) : step.Sends P R := by
  intro w s held
  cases step with
  | edit e args => exact changed_keeps held s _
  | leaf kind args => exact changed_keeps held s _
  | append spec => exact changed_keeps held s _
  | nested args build =>
    cases build with
    | none =>
      simp only [run]
      split <;> exact .fail held
    | some steps =>
      simp only [run]
      split
      · exact .fail held
      -- The inner search is sent from the same world, so its link is the outer one's afterwards.
      · refine ((runAll_keeps building held .fresh).handedTo s).andThen ?_
        exact fun _ _ after => changed_keeps after _ _
  | functions args build score =>
    cases build with
    | none =>
      simp only [run]
      split <;> exact .fail held
    | some steps =>
      cases score with
      | none =>
        simp only [run]
        split <;> exact .fail held
      | some rating =>
        simp only [run]
        split
        · exact .fail held
        · refine ((runAll_keeps building held .fresh).handedTo s).andThen ?_
          intro built state after
          split
          · exact .fail after
          · refine ((ScoreStep.runAll_keeps scoring after _).handedTo state.2).andThen ?_
            intro scored _ last
            refine (changed_keeps last _ _).noting ?_
            -- A note is an event and no request.
            rw [scored.requests_notes]
            exact nofun
  | aggregate args build =>
    simp only [run, aggregated]
    split
    · exact .fail held
    · exact .fail held
    · rename_i steps _
      have added : ((AggregationStep.runAll steps s.document).within
          fun d => (w, s.withDocument d)).Keeps (Linked P) R :=
        .of_silent held (AggregationStep.requests_runAll steps s.document)
      exact added.andThen fun _ _ after => .succeed after
  | view part args => exact .of_silent held rfl
  | fetch args =>
    simp only [run, fetched]
    split
    · exact .fail held
    · have sent : ((s.send w).within fun w => (w, s)).Keeps (Linked P) R :=
        (s.send_keeps asks held).within fun _ after => after
      exact sent.andThen fun _ _ after => .succeed after
  | execute args =>
    simp only [run, executed]
    split
    · exact .fail held
    · have executed : ((s.execute w).within fun w => (w, s)).Keeps (Linked P) R :=
        (s.execute_keeps asks held).within fun _ after => after
      exact executed.andThen fun _ _ after => .succeed after
  | paginate args =>
    simp only [run, paginated]
    split
    · exact .fail held
    · exact (s.paginate_keeps asks held _ _).andThen fun _ _ after => .succeed after
  | observe => exact .of_silent held rfl
  | part => exact .fail held
  | unknown => exact .fail held

omit asks in
theorem ScoreStep.sends_of_parts {step : ScoreStep}
    (filtering : ∀ inner ∈ step.filtering, inner.Sends P R) : step.Sends P R := by
  intro w s held
  cases step with
  | add kind args filter =>
    cases filter with
    | none =>
      simp only [run]
      split
      · exact .fail held
      · split
        · exact .succeed held
        · exact .fail held
    | some steps =>
      simp only [run]
      split
      · exact .fail held
      · refine ((SearchStep.runAll_keeps filtering held .fresh).handedTo s).andThen ?_
        exact fun _ _ after => .succeed after
  | query args =>
    simp only [run]
    split
    · exact .fail held
    · exact .of_silent held s.requests_notes
  | observe => exact .of_silent held rfl
  | part => exact .fail held
  | unknown => exact .fail held

/-- Every step keeps the condition and sends only such requests. -/
theorem steps_send : (∀ step : SearchStep, step.Sends P R) ∧ (∀ step : ScoreStep, step.Sends P R) :=
  steps_induction (fun _ => SearchStep.sends_of_parts asks) fun _ => ScoreStep.sends_of_parts

end Steps

end SearchRequest
