import SearchRequest.Proofs.Search.Change
import SearchRequest.Proofs.Search.Sending

/-!
What a run asks for. The steps that it takes are listed with the world and the search that each runs
on, those inside other steps among them; the calls on the link are the ones that these steps make,
each made once and in their order, and an error that answers one of them is the outcome.
-/

namespace SearchRequest

structure Inquiry where
  index : Option String
  docType : Option String
  body : Object

namespace Inquiry

def request (q : Inquiry) : Request := .search q.index q.docType q.body

end Inquiry

namespace Link

def ask (l : Link) (q : Inquiry) : Outcome Link Payload := l.search q.index q.docType q.body

/-- The requests of calls that are made one after the other, whatever answers them. -/
def sent : Link → List Inquiry → List Request
  | _, [] => []
  | l, q :: rest => (l.ask q).report.requests ++ (l.ask q).state.sent rest

def after (l : Link) (asked : List Inquiry) : Link := asked.foldl (fun l q => (l.ask q).state) l

theorem sent_append (l : Link) (first second : List Inquiry) :
    l.sent (first ++ second) = l.sent first ++ (l.after first).sent second := by
  induction first generalizing l with
  | nil => rfl
  | cons q rest ih =>
    rw [List.cons_append, sent, sent, ih, List.append_assoc]
    rfl

theorem after_append (l : Link) (first second : List Inquiry) :
    l.after (first ++ second) = (l.after first).after second := List.foldl_append

theorem sent_direct (server : Server) (closable : Bool) (asked : List Inquiry) :
    (direct server closable).sent asked = asked.map Inquiry.request := by
  induction asked generalizing server with
  | nil => rfl
  | cons q rest ih => exact congrArg (q.request :: ·) (ih server.next.2)

end Link

structure Moment where
  step : SearchStep
  world : World
  search : Search

def Outcome.onward {σ α β : Type} (o : Outcome σ α) (later : List β) : List β :=
  match o.result with
  | .error _ => []
  | .ok _ => later

theorem Outcome.onward_handedTo {σ τ β : Type} (sub : Outcome (World × τ) Unit) (owner : σ)
    (later : List β) : (sub.handedTo owner).onward later = sub.onward later := by
  simp only [onward, handedTo]
  cases sub.result <;> rfl

mutual

/-- The steps that are taken inside a step, at whatever depth, until one fails. -/
def SearchStep.inside : SearchStep → World → List Moment
  | .nested args (some steps), w =>
      match Search.nestedSignature.bind args with
      | .error _ => []
      | .ok _ => SearchStep.momentsAll steps w .fresh
  | .functions args (some steps) (some scoring), w =>
      match Search.functionsSignature.bind args with
      | .error _ => []
      | .ok a =>
          let built := SearchStep.runAll steps w .fresh
          SearchStep.momentsAll steps w .fresh ++ built.onward
            (match Scoring.start built.state.2.document.query (a.field "parameters") with
            | .error _ => []
            | .ok start => ScoreStep.insideAll scoring built.state.1 start)
  | _, _ => []

def SearchStep.momentsAll : List SearchStep → World → Search → List Moment
  | [], _, _ => []
  | step :: rest, w, s =>
      let o := SearchStep.run step w s
      ⟨step, w, s⟩ :: SearchStep.inside step w ++
        o.onward (SearchStep.momentsAll rest o.state.1 o.state.2)

def ScoreStep.inside : ScoreStep → World → List Moment
  | .add kind args (some steps), w =>
      match ScoreDraft.of kind args with
      | .error _ => []
      | .ok _ => SearchStep.momentsAll steps w .fresh
  | _, _ => []

def ScoreStep.insideAll : List ScoreStep → World → Scoring → List Moment
  | [], _, _ => []
  | step :: rest, w, s =>
      let o := ScoreStep.run step w s
      ScoreStep.inside step w ++ o.onward (ScoreStep.insideAll rest o.state.1 o.state.2)

end

namespace SearchStep

def moments (step : SearchStep) (w : World) (s : Search) : List Moment :=
  ⟨step, w, s⟩ :: step.inside w

def momentsEach : List SearchStep → World × Search → List Moment
  | [], _ => []
  | step :: rest, state =>
      step.moments state.1 state.2 ++ momentsEach rest (step.run state.1 state.2).state

end SearchStep

def Search.inquiry? (s : Search) : Option Inquiry :=
  s.document.body.toOption.map fun body => ⟨s.index, s.docType, body⟩

/-- The call that is made at a moment: by a step that is answered by the cluster, if it accepts its
arguments and the body of the search can be written. -/
def Moment.inquiry? (m : Moment) : Option Inquiry :=
  match m.step with
  | .fetch args | .execute args =>
      if (noArguments.bind args).isOk then m.search.inquiry? else none
  | .paginate args => match Search.paginateSignature.bind args with
      | .error _ => none
      | .ok a => match (m.world.page (a.field "limit") (a.field "page")).1 with
          | .error _ => none
          | .ok page => (m.search.onPage page).inquiry?
  | _ => none

def inquiries (moments : List Moment) : List Inquiry := moments.filterMap Moment.inquiry?

theorem inquiries_cons (m : Moment) (rest : List Moment) :
    inquiries (m :: rest) = m.inquiry?.toList ++ inquiries rest := by
  rw [inquiries, List.filterMap_cons]
  cases m.inquiry? <;> rfl

theorem inquiries_single (m : Moment) : inquiries [m] = m.inquiry?.toList := by
  rw [inquiries_cons]
  exact List.append_nil _

theorem inquiries_append (first second : List Moment) :
    inquiries (first ++ second) = inquiries first ++ inquiries second := List.filterMap_append

/-- The requests of an outcome and the link that it leaves are those of the calls. A failure that
answers one of them is the result, and that call is the last one. -/
structure Outcome.Inquires {σ α : Type} (o : Outcome σ α) (linkOf : σ → Link) (start : Link)
    (asked : List Inquiry) : Prop where
  requests : o.report.requests = start.sent asked
  link : linkOf o.state = start.after asked
  relays : ∀ (before : List Inquiry) (q : Inquiry) (rest : List Inquiry) (failure : Failure),
    asked = before ++ q :: rest → ((start.after before).ask q).result = .error failure →
      o.result = .error failure ∧ rest = []

namespace Outcome

variable {σ τ α β : Type} {linkOf : σ → Link} {start : Link} {asked rest : List Inquiry}
  {o : Outcome σ α}

theorem inquires_nothing (silent : o.report.requests = []) (same : linkOf o.state = start) :
    o.Inquires linkOf start [] := by
  refine ⟨silent, same, fun before q rest failure none _ => ?_⟩
  exact absurd none.symm (List.append_ne_nil_of_right_ne_nil _ (List.cons_ne_nil q rest))

theorem inquires_single {q : Inquiry} (requests : o.report.requests = (start.ask q).report.requests)
    (link : linkOf o.state = (start.ask q).state)
    (result : ∀ failure, (start.ask q).result = .error failure → o.result = .error failure) :
    o.Inquires linkOf start [q] := by
  refine ⟨requests.trans (List.append_nil _).symm, link, ?_⟩
  intro before other rest failure same failed
  cases before with
  | nil =>
    cases same
    exact ⟨result failure failed, rfl⟩
  | cons first more => exact absurd (List.cons.inj same).2.symm (by simp)

namespace Inquires

theorem within (first : o.Inquires linkOf start asked) {embed : σ → τ} {linkIn : τ → Link}
    (same : ∀ state, linkIn (embed state) = linkOf state) :
    (o.within embed).Inquires linkIn start asked :=
  ⟨first.requests, (same _).trans first.link, first.relays⟩

theorem handedTo {ρ : Type} {o : Outcome (World × τ) Unit}
    (built : o.Inquires (·.1.link) start asked) (owner : ρ) :
    (o.handedTo owner).Inquires (·.1.link) start asked := by
  refine ⟨built.requests, built.link, fun before q rest failure same failed => ?_⟩
  obtain ⟨result, last⟩ := built.relays before q rest failure same failed
  exact ⟨result_handedTo_of_error result owner, last⟩

theorem noting (first : o.Inquires linkOf start asked) {earlier : Report}
    (silent : earlier.requests = []) : (o.noting earlier).Inquires linkOf start asked :=
  ⟨(congrArg (· ++ o.report.requests) silent).trans first.requests, first.link, first.relays⟩

theorem andThen (first : o.Inquires linkOf start asked) {next : α → σ → Outcome σ β}
    (onward : ∀ value, o.result = .ok value →
      (next value o.state).Inquires linkOf (linkOf o.state) rest)
    (stops : ∀ failure, o.result = .error failure → rest = []) :
    (o.andThen next).Inquires linkOf start (asked ++ rest) := by
  cases result : o.result with
  | error failure =>
    rw [andThen_of_error result, stops failure result, List.append_nil]
    refine ⟨first.requests, first.link, fun before q later other same failed => ?_⟩
    obtain ⟨answered, last⟩ := first.relays before q later other same failed
    exact ⟨congrArg _ (Except.error.inj (result.symm.trans answered)), last⟩
  | ok value =>
    have second := onward value result
    rw [andThen_of_ok result]
    refine ⟨?_, ?_, fun before q later failure same failed => ?_⟩
    · rw [Link.sent_append, ← first.requests, ← first.link, ← second.requests]
      rfl
    · rw [Link.after_append, ← first.link]
      exact second.link
    · obtain ⟨more, rfl, split⟩ | ⟨more, split, same⟩ := List.append_eq_append_iff.mp same
      · rw [Link.after_append, ← first.link] at failed
        exact second.relays more q later failure split failed
      · cases more with
        | nil =>
          rw [List.append_nil] at split
          rw [← split, ← first.link] at failed
          exact second.relays [] q later failure same.symm failed
        | cons other done =>
          cases same
          -- The call that fails was made before a success, which is not so.
          cases result.symm.trans (first.relays before q done failure split failed).1

theorem andThen_nothing (first : o.Inquires linkOf start asked) {next : α → σ → Outcome σ β}
    (silent : ∀ value state, (next value state).Inquires linkOf (linkOf state) []) :
    (o.andThen next).Inquires linkOf start asked := by
  have done := first.andThen (fun value _ => silent value o.state) fun _ _ => rfl
  rwa [List.append_nil] at done

theorem andThen_moments {moments later : List Moment}
    (first : o.Inquires linkOf start (inquiries moments)) {next : α → σ → Outcome σ β}
    (onward : ∀ value, o.result = .ok value →
      (next value o.state).Inquires linkOf (linkOf o.state) (inquiries later)) :
    (o.andThen next).Inquires linkOf start (inquiries (moments ++ o.onward later)) := by
  rw [inquiries_append, Outcome.onward]
  refine first.andThen (fun value result => ?_) fun failure failed => ?_
  · simp only [result]
    exact onward value result
  · simp only [failed]
    rfl

end Inquires

end Outcome

namespace Search

theorem inquiry?_eq_none {s : Search} {failure : Failure}
    (unwritten : s.document.body = .error failure) : s.inquiry? = none := by
  rw [inquiry?, unwritten]
  rfl

theorem inquiry?_eq_some {s : Search} {body : Object} (written : s.document.body = .ok body) :
    s.inquiry? = some ⟨s.index, s.docType, body⟩ := by
  rw [inquiry?, written]
  rfl

theorem send_inquires (s : Search) (w : World) :
    (s.send w).Inquires World.link w.link s.inquiry?.toList := by
  unfold send
  cases written : s.document.body with
  | error failure =>
    rw [inquiry?_eq_none written]
    split <;> exact Outcome.inquires_nothing rfl rfl
  | ok body =>
    rw [inquiry?_eq_some written]
    split
    · rename_i absent
      -- A call on an absent link asks for nothing either, and fails in the same way.
      have none : w.link = .absent := by
        cases link : w.link <;> first | rfl | simp [link, Link.isAbsent] at absent
      rw [none]
      exact Outcome.inquires_single rfl none fun failure refused =>
        congrArg _ (Except.error.inj refused)
    · exact Outcome.inquires_single rfl rfl fun failure refused => refused

theorem execute_inquires (s : Search) (w : World) :
    (s.execute w).Inquires World.link w.link s.inquiry?.toList := by
  refine (s.send_inquires w).andThen_nothing fun payload w => ?_
  split <;> exact Outcome.inquires_nothing rfl rfl

theorem paginate_inquires_of_error (s : Search) {w : World} {limit number : Json}
    {failure : Failure} (refused : (w.page limit number).1 = .error failure) :
    (s.paginate w limit number).Inquires (·.1.link) w.link [] := by
  have same := w.link_page limit number
  unfold paginate
  split
  · rename_i paged
    rw [paged] at same
    exact Outcome.inquires_nothing rfl same
  · rename_i paged
    rw [paged] at refused
    cases refused

theorem paginate_inquires_of_ok (s : Search) {w : World} {limit number : Json} {page : Page}
    (accepted : (w.page limit number).1 = .ok page) :
    (s.paginate w limit number).Inquires (·.1.link) w.link (s.onPage page).inquiry?.toList := by
  have same := w.link_page limit number
  unfold paginate
  split
  · rename_i paged
    rw [paged] at accepted
    cases accepted
  · rename_i other after paged
    rw [paged] at accepted same
    cases accepted
    have executed : (((s.onPage page).execute after).within fun w => (w, s.onPage page)).Inquires
        (·.1.link) after.link (s.onPage page).inquiry?.toList :=
      ((s.onPage page).execute_inquires after).within fun _ => rfl
    rw [same] at executed
    exact executed.andThen_nothing fun _ _ => Outcome.inquires_nothing rfl rfl

end Search

namespace SearchStep

def Inquiring (step : SearchStep) : Prop :=
  ∀ (w : World) (s : Search),
    (step.run w s).Inquires (·.1.link) w.link (inquiries (step.moments w s))

variable {w : World} {s : Search}

theorem changed_inquires (w : World) (s : Search) (attempt : Except Failure Change) :
    (changed w s attempt).Inquires (·.1.link) w.link [] := by
  cases attempt <;> exact Outcome.inquires_nothing rfl rfl

theorem fetched_inquires (args : Object) (w : World) (s : Search) :
    (fetched args w s).Inquires (·.1.link) w.link (inquiries [⟨fetch args, w, s⟩]) := by
  have sent : ((s.send w).within fun w => (w, s)).Inquires (·.1.link) w.link s.inquiry?.toList :=
    (s.send_inquires w).within fun _ => rfl
  rw [inquiries_single]
  cases bound : noArguments.bind args with
  | error failure =>
    simp only [fetched, Moment.inquiry?, bound]
    exact Outcome.inquires_nothing rfl rfl
  | ok a =>
    simp only [fetched, Moment.inquiry?, bound]
    exact sent.andThen_nothing fun _ _ => Outcome.inquires_nothing rfl rfl

theorem executed_inquires (args : Object) (w : World) (s : Search) :
    (executed args w s).Inquires (·.1.link) w.link (inquiries [⟨execute args, w, s⟩]) := by
  have sent : ((s.execute w).within fun w => (w, s)).Inquires (·.1.link) w.link s.inquiry?.toList :=
    (s.execute_inquires w).within fun _ => rfl
  rw [inquiries_single]
  cases bound : noArguments.bind args with
  | error failure =>
    simp only [executed, Moment.inquiry?, bound]
    exact Outcome.inquires_nothing rfl rfl
  | ok a =>
    simp only [executed, Moment.inquiry?, bound]
    exact sent.andThen_nothing fun _ _ => Outcome.inquires_nothing rfl rfl

theorem paginated_inquires (args : Object) (w : World) (s : Search) :
    (paginated args w s).Inquires (·.1.link) w.link (inquiries [⟨paginate args, w, s⟩]) := by
  rw [inquiries_single]
  cases bound : Search.paginateSignature.bind args with
  | error failure =>
    simp only [paginated, Moment.inquiry?, bound]
    exact Outcome.inquires_nothing rfl rfl
  | ok a =>
    simp only [paginated, Moment.inquiry?, bound]
    cases asked : (w.page (a.field "limit") (a.field "page")).1 with
    | error failure =>
      exact (s.paginate_inquires_of_error asked).andThen_nothing
        fun _ _ => Outcome.inquires_nothing rfl rfl
    | ok page =>
      exact (s.paginate_inquires_of_ok asked).andThen_nothing
        fun _ _ => Outcome.inquires_nothing rfl rfl

theorem aggregated_inquires (args : Object) (build : Option (List AggregationStep)) (w : World)
    (s : Search) : (aggregated args build w s).Inquires (·.1.link) w.link [] := by
  unfold aggregated
  split
  · exact Outcome.inquires_nothing rfl rfl
  · exact Outcome.inquires_nothing rfl rfl
  · rename_i steps _
    have added : ((AggregationStep.runAll steps s.document).within
        fun d => (w, s.withDocument d)).Inquires (·.1.link) w.link [] :=
      Outcome.inquires_nothing (AggregationStep.requests_runAll steps s.document) rfl
    exact added.andThen_nothing fun _ _ => Outcome.inquires_nothing rfl rfl

theorem addScored_inquires (scoring : Scoring) (state : World × Search) :
    (addScored scoring state).Inquires (·.1.link) state.1.link [] :=
  (changed_inquires state.1 state.2 _).noting scoring.requests_notes

theorem runAll_inquires {steps : List SearchStep} (each : ∀ step ∈ steps, step.Inquiring)
    (w : World) (s : Search) :
    (runAll steps w s).Inquires (·.1.link) w.link (inquiries (momentsAll steps w s)) := by
  induction steps generalizing w s with
  | nil => exact Outcome.inquires_nothing rfl rfl
  | cons step rest ih =>
    obtain ⟨first, others⟩ := List.forall_mem_cons.mp each
    rw [runAll, momentsAll]
    refine (first w s).andThen_moments fun _ _ => ?_
    exact ih others _ _

end SearchStep

namespace ScoreStep

def Inquiring (step : ScoreStep) : Prop :=
  ∀ (w : World) (s : Scoring),
    (step.run w s).Inquires (·.1.link) w.link (inquiries (step.inside w))

theorem runAll_inquires {steps : List ScoreStep} (each : ∀ step ∈ steps, step.Inquiring)
    (w : World) (s : Scoring) :
    (runAll steps w s).Inquires (·.1.link) w.link (inquiries (insideAll steps w s)) := by
  induction steps generalizing w s with
  | nil => exact Outcome.inquires_nothing rfl rfl
  | cons step rest ih =>
    obtain ⟨first, others⟩ := List.forall_mem_cons.mp each
    rw [runAll, insideAll]
    refine (first w s).andThen_moments fun _ _ => ?_
    exact ih others _ _

end ScoreStep

theorem SearchStep.inquiring_of_parts {step : SearchStep}
    (building : ∀ inner ∈ step.building, inner.Inquiring)
    (scoring : ∀ inner ∈ step.scoring, inner.Inquiring) : step.Inquiring := by
  intro w s
  cases step with
  | edit e args => exact changed_inquires w s _
  | leaf kind args => exact changed_inquires w s _
  | append spec => exact changed_inquires w s _
  | nested args build =>
    cases build with
    | none =>
      simp only [run]
      split <;> exact Outcome.inquires_nothing rfl rfl
    | some steps =>
      change Outcome.Inquires _ _ _ (inquiries ((nested args (some steps)).inside w))
      cases bound : Search.nestedSignature.bind args with
      | error failure =>
        simp only [run, inside, bound]
        exact Outcome.inquires_nothing rfl rfl
      | ok a =>
        simp only [run, inside, bound]
        exact ((runAll_inquires building w .fresh).handedTo s).andThen_nothing
          fun _ _ => changed_inquires _ _ _
  | functions args build score =>
    cases build with
    | none =>
      simp only [run]
      split <;> exact Outcome.inquires_nothing rfl rfl
    | some steps =>
      cases score with
      | none =>
        simp only [run]
        split <;> exact Outcome.inquires_nothing rfl rfl
      | some rating =>
        change Outcome.Inquires _ _ _
          (inquiries ((functions args (some steps) (some rating)).inside w))
        cases bound : Search.functionsSignature.bind args with
        | error failure =>
          simp only [run, inside, bound]
          exact Outcome.inquires_nothing rfl rfl
        | ok a =>
          simp only [run, inside, bound]
          have built : (runAll steps w .fresh).Inquires (·.1.link) w.link _ :=
            runAll_inquires building w .fresh
          -- The scoring starts in the world that the steps on the query have left.
          rw [← Outcome.onward_handedTo _ s]
          refine (built.handedTo s).andThen_moments fun sub handed => ?_
          obtain ⟨done, result, rfl⟩ := Outcome.handedTo_eq_ok handed
          cases started : Scoring.start (runAll steps w .fresh).state.2.document.query
              (a.field "parameters") with
          | error failure => exact Outcome.inquires_nothing rfl rfl
          | ok start =>
            exact ((ScoreStep.runAll_inquires scoring _ start).handedTo s).andThen_nothing
              addScored_inquires
  | aggregate args build => exact aggregated_inquires args build w s
  | view part args => exact Outcome.inquires_nothing rfl rfl
  | fetch args => exact fetched_inquires args w s
  | execute args => exact executed_inquires args w s
  | paginate args => exact paginated_inquires args w s
  | observe => exact Outcome.inquires_nothing rfl rfl
  | part => exact Outcome.inquires_nothing rfl rfl
  | unknown => exact Outcome.inquires_nothing rfl rfl

theorem ScoreStep.inquiring_of_parts {step : ScoreStep}
    (filtering : ∀ inner ∈ step.filtering, inner.Inquiring) : step.Inquiring := by
  intro w s
  cases step with
  | add kind args filter =>
    cases drafted : ScoreDraft.of kind args with
    | error failure =>
      cases filter <;> simp only [run, inside, drafted] <;> exact Outcome.inquires_nothing rfl rfl
    | ok draft =>
      cases filter with
      | none =>
        simp only [run, inside, drafted]
        split <;> exact Outcome.inquires_nothing rfl rfl
      | some steps =>
        simp only [run, inside, drafted]
        have built : (SearchStep.runAll steps w .fresh).Inquires (·.1.link) w.link _ :=
          SearchStep.runAll_inquires filtering w .fresh
        exact (built.handedTo s).andThen_nothing fun _ _ => Outcome.inquires_nothing rfl rfl
  | query args =>
    simp only [run]
    split
    · exact Outcome.inquires_nothing rfl rfl
    · exact Outcome.inquires_nothing s.requests_notes rfl
  | observe => exact Outcome.inquires_nothing rfl rfl
  | part => exact Outcome.inquires_nothing rfl rfl
  | unknown => exact Outcome.inquires_nothing rfl rfl

theorem SearchStep.inquiring (step : SearchStep) : step.Inquiring :=
  (steps_induction (fun _ => inquiring_of_parts) fun _ => ScoreStep.inquiring_of_parts).1 step

theorem SearchStep.each_inquires (steps : List SearchStep) (w : World) (s : Search) :
    let run := fun (step : SearchStep) (state : World × Search) => step.run state.1 state.2
    let outcomes := Outcome.each run steps (w, s)
    let asked := inquiries (momentsEach steps (w, s))
    outcomes.flatMap (·.report.requests) = w.link.sent asked ∧
      (Outcome.last outcomes (w, s)).1.link = w.link.after asked := by
  induction steps generalizing w s with
  | nil => exact ⟨rfl, rfl⟩
  | cons step rest ih =>
    have first := step.inquiring w s
    obtain ⟨requests, link⟩ := ih (step.run w s).state.1 (step.run w s).state.2
    -- The later steps make their calls on the link that the first one leaves.
    rw [first.link] at requests link
    intro run outcomes asked
    have split : asked =
        inquiries (step.moments w s) ++ inquiries (momentsEach rest (step.run w s).state) :=
      inquiries_append _ _
    rw [split, Link.sent_append, Link.after_append, ← first.requests]
    refine ⟨congrArg (_ ++ ·) requests, ?_⟩
    rw [Outcome.last_each_cons]
    exact link

open SearchStep in
/-- A run makes exactly the calls of the steps that it takes, at whatever depth and in their order:
one for each that is answered by the cluster, accepts its arguments and has a body to send, which is
the one of its search at that moment, and none for any other step. Over a connection of the caller's
own each call is one request. A failure that answers a call is the outcome of the step it was made
in, which makes no call after it. -/
theorem each_call_is_made_once :
    (∀ (steps : List SearchStep) (w : World) (s : Search),
      let run := fun (step : SearchStep) (state : World × Search) => step.run state.1 state.2
      let outcomes := Outcome.each run steps (w, s)
      let asked := inquiries (momentsEach steps (w, s))
      outcomes.flatMap (·.report.requests) = w.link.sent asked ∧
        (Outcome.last outcomes (w, s)).1.link = w.link.after asked ∧
        ∀ server closable, w.link = .direct server closable →
          outcomes.flatMap (·.report.requests) = asked.map Inquiry.request) ∧
    ∀ (step : SearchStep) (w : World) (s : Search) (before : List Inquiry) (q : Inquiry)
      (rest : List Inquiry) (failure : Failure),
      inquiries (step.moments w s) = before ++ q :: rest →
        ((w.link.after before).ask q).result = .error failure →
          (step.run w s).result = .error failure ∧ rest = [] := by
  refine ⟨fun steps w s => ?_, fun step w s => (step.inquiring w s).relays⟩
  obtain ⟨requests, link⟩ := each_inquires steps w s
  refine ⟨requests, link, fun server closable direct => ?_⟩
  rw [requests, direct, Link.sent_direct]

def SearchStep.curious : SearchStep :=
  .nested [("field", .str "items"), ("callback", .null)]
    (some [.fetch [], .leaf .term [("field", .str "items.color"), ("value", .str "black")],
      .execute [], .fetch []])

def World.answeringOnce : World :=
  .withLink .isolated (.direct
    ⟨[.answer (.plain Server.emptyAnswer), .failure (.transport .timeout "timed out")]⟩ false)

open SearchStep World in
theorem each_call_is_made_once_curious :
    let filtered : Object :=
      [("query", Object.only "term" (.obj [("items.color", .str "black")]))]
    (Outcome.each (fun step state => SearchStep.run step state.1 state.2)
      [.edit .index [("index", .str "orders")], .paginate [("limit", .int 0)], curious, .fetch []]
      (answeringOnce, .fresh)).flatMap (·.report.requests) =
        [.search none none [], .search none none filtered, .search (some "orders") none []] ∧
    inquiries (curious.moments answeringOnce .fresh) =
      [⟨none, none, []⟩] ++ ⟨none, none, filtered⟩ :: [] ∧
    (curious.run answeringOnce .fresh).result = .error (.transport .timeout "timed out") := by
  obtain ⟨runs, relays⟩ := each_call_is_made_once
  obtain ⟨_, _, direct⟩ := runs [.edit .index [("index", .str "orders")],
    .paginate [("limit", .int 0)], curious, .fetch []] answeringOnce .fresh
  exact ⟨(direct _ _ rfl).trans rfl, rfl,
    (relays curious answeringOnce .fresh [⟨none, none, []⟩] ⟨none, none, _⟩ [] _ rfl rfl).1⟩

end SearchRequest
