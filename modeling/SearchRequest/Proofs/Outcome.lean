import SearchRequest.Trace.Report

/-!
Laws of attempts and outcomes. An attempt that goes on after another gives a value exactly when
both do; an outcome that goes on keeps the state and the report of what went before.
-/

namespace SearchRequest

section Attempt

variable {ε α β : Type}

def Succeeds (attempt : Except ε α) : Prop := ∃ value, attempt = .ok value

@[simp] theorem bind_ok (value : α) (next : α → Except ε β) :
    ((.ok value : Except ε α) >>= next) = next value := rfl

@[simp] theorem bind_error (failure : ε) (next : α → Except ε β) :
    ((.error failure : Except ε α) >>= next) = .error failure := rfl

@[simp] theorem map_ok (value : α) (f : α → β) :
    (.ok value : Except ε α).map f = .ok (f value) := rfl

@[simp] theorem map_error (failure : ε) (f : α → β) :
    (.error failure : Except ε α).map f = .error failure := rfl

theorem bind_eq_ok {attempt : Except ε α} {next : α → Except ε β} {value : β} :
    (attempt >>= next) = .ok value ↔ ∃ first, attempt = .ok first ∧ next first = .ok value := by
  cases attempt with
  | error failure => simp
  | ok first => simp

theorem map_eq_ok {attempt : Except ε α} {f : α → β} {value : β} :
    attempt.map f = .ok value ↔ ∃ first, attempt = .ok first ∧ f first = value := by
  cases attempt with
  | error failure => simp
  | ok first => simp

theorem unless_eq_ok {refused : Prop} [Decidable refused] {failure : ε} {value result : α} :
    (if refused then .error failure else .ok value : Except ε α) = .ok result ↔
      value = result ∧ ¬ refused := by
  split
  · rename_i met
    exact iff_of_false nofun fun taken => taken.2 met
  · rename_i unmet
    rw [Except.ok.injEq, and_iff_left unmet]

theorem unless_blank_eq_ok {failure : ε} {text name : String} :
    (if Text.isBlank text then .error failure else .ok text : Except ε String) = .ok name ↔
      Json.str text = .str name ∧ Text.isBlank name = false := by
  rw [unless_eq_ok, Json.str.injEq, Bool.not_eq_true]
  exact and_congr_right fun same => by rw [same]

theorem mapError_eq_ok {δ : Type} {attempt : Except ε α} {f : ε → δ} {value : α} :
    attempt.mapError f = .ok value ↔ attempt = .ok value := by
  cases attempt with
  | error failure => exact ⟨nofun, nofun⟩
  | ok first =>
    change (Except.ok first : Except δ α) = .ok value ↔ _
    rw [Except.ok.injEq, Except.ok.injEq]

@[simp] theorem succeeds_ok (value : α) : Succeeds (.ok value : Except ε α) := ⟨value, rfl⟩

@[simp] theorem not_succeeds_error (failure : ε) :
    ¬ Succeeds (.error failure : Except ε α) := by
  rintro ⟨value, same⟩
  cases same

theorem succeeds_bind {attempt : Except ε α} {next : α → Except ε β} :
    Succeeds (attempt >>= next) ↔ ∃ first, attempt = .ok first ∧ Succeeds (next first) := by
  cases attempt with
  | error failure => simp
  | ok first => simp

theorem succeeds_bind_iff {attempt : Except ε α} {next : α → Except ε β} {P : Prop}
    (same : ∀ value, Succeeds (next value) ↔ P) :
    Succeeds (attempt >>= next) ↔ Succeeds attempt ∧ P := by
  simp only [succeeds_bind, same, exists_and_right]
  rfl

theorem succeeds_mapError {δ : Type} {attempt : Except ε α} {f : ε → δ} :
    Succeeds (attempt.mapError f) ↔ Succeeds attempt := by
  simp only [Succeeds, mapError_eq_ok]

theorem succeeds_map {attempt : Except ε α} {f : α → β} :
    Succeeds (attempt.map f) ↔ Succeeds attempt := by
  cases attempt <;> simp

end Attempt

theorem Report.append_assoc (a b c : Report) : a ++ b ++ c = a ++ (b ++ c) := by
  change Report.append (Report.append a b) c = Report.append a (Report.append b c)
  simp only [append, List.append_assoc]

namespace Outcome

variable {σ τ α β : Type}

theorem andThen_of_ok {o : Outcome σ α} {value : α} (ok : o.result = .ok value)
    (next : α → σ → Outcome σ β) :
    o.andThen next = ⟨(next value o.state).result, (next value o.state).state,
      o.report ++ (next value o.state).report⟩ := by
  simp only [andThen, ok]

theorem andThen_of_error {o : Outcome σ α} {failure : Failure} (failed : o.result = .error failure)
    (next : α → σ → Outcome σ β) :
    o.andThen next = ⟨.error failure, o.state, o.report⟩ := by
  simp only [andThen, failed]

/-- What an operation brings about and what goes on keeps holds in the end, whether or not it went
on. -/
theorem andThen_invariant {P : σ → Prop} {o : Outcome σ α} {next : α → σ → Outcome σ β}
    (first : P o.state) (keeps : ∀ value, P (next value o.state).state) :
    P (o.andThen next).state := by
  cases result : o.result with
  | error failure =>
    rw [andThen_of_error result]
    exact first
  | ok value =>
    rw [andThen_of_ok result]
    exact keeps value

theorem andThen_state {o : Outcome σ α} {next : α → σ → Outcome σ β}
    (keeps : ∀ value state, (next value state).state = state) :
    (o.andThen next).state = o.state :=
  andThen_invariant (P := fun state => state = o.state) rfl fun value => keeps value o.state

theorem mem_requests_andThen {o : Outcome σ α} {next : α → σ → Outcome σ β} {request : Request}
    (sent : request ∈ (o.andThen next).report.requests) :
    request ∈ o.report.requests ∨
      ∃ value, o.result = .ok value ∧ request ∈ (next value o.state).report.requests := by
  cases first : o.result with
  | error failure =>
    rw [andThen_of_error first] at sent
    exact .inl sent
  | ok value =>
    rw [andThen_of_ok first] at sent
    rcases List.mem_append.mp sent with before | after
    · exact .inl before
    · exact .inr ⟨value, rfl, after⟩

theorem requests_andThen {o : Outcome σ α} {next : α → σ → Outcome σ β}
    (silent : ∀ value state, (next value state).report.requests = []) :
    (o.andThen next).report.requests = o.report.requests := by
  cases first : o.result with
  | error failure => rw [andThen_of_error first]
  | ok value =>
    rw [andThen_of_ok first]
    exact (congrArg (o.report.requests ++ ·) (silent value o.state)).trans (List.append_nil _)

theorem succeed_andThen (state : σ) (value : α) (next : α → σ → Outcome σ β) :
    (succeed state value).andThen next = next value state := rfl

theorem andThen_assoc (o : Outcome σ α) (next : α → σ → Outcome σ τ)
    (last : τ → σ → Outcome σ β) :
    (o.andThen next).andThen last =
      o.andThen fun value state => (next value state).andThen last := by
  cases first : o.result with
  | error failure => simp only [andThen, first]
  | ok value =>
    cases second : (next value o.state).result with
    | error failure => simp only [andThen, first, second]
    | ok between => simp only [andThen, first, second, Report.append_assoc]

theorem andThen_within {o : Outcome σ α} {embed : σ → τ} {next : α → σ → Outcome σ β}
    {other : α → τ → Outcome τ β}
    (same : ∀ value state, other value (embed state) = (next value state).within embed) :
    (o.within embed).andThen other = (o.andThen next).within embed := by
  cases result : o.result with
  | error failure => simp only [andThen, within, result]
  | ok value => simp only [andThen, within, result, same]

theorem last_each_cons (run : τ → σ → Outcome σ α) (step : τ) (rest : List τ) (state : σ) :
    last (each run (step :: rest) state) state =
      last (each run rest (run step state).state) (run step state).state := by
  simp only [each, last, List.getLast?_cons]
  cases (each run rest (run step state).state).getLast? <;> rfl

end Outcome

end SearchRequest
