import SearchRequest.Proofs.Connection.Routes
import SearchRequest.Proofs.Search.Aliases
import SearchRequest.Proofs.Search.Failing
import SearchRequest.Proofs.Search.Parts

/-!
The parts of a request body beside the query and the aggregations, over a whole run. What its steps
set is listed under the keys of the body: under each key the value that was set last stands, and
under that of the sorts all that were set.
-/

namespace SearchRequest

namespace Document

/-- The parts of a document beside the query and the aggregations. -/
def presentation (d : Document) :
    List FieldSort × Option Highlight × Option Nat × Option Nat × Json × Option SourceFilter :=
  (d.sorts, d.highlight, d.offset, d.size, d.minScore, d.source)

/-- These parts are as they were set last, and all sorts that were set are there. -/
structure Shows (d : Document) (set : Object) : Prop where
  offset : d.offset.map (fun count => .int count) = set.last? "from"
  size : d.size.map (fun count => .int count) = set.last? "size"
  minScore : d.minScore = Json.ofOption (set.last? "min_score")
  sorts : d.sorts.map FieldSort.toJson = set.valuesAt "sort"
  highlight : d.highlight.map Highlight.toJson = set.last? "highlight"
  source : d.source.map SourceFilter.toJson = set.last? "_source"
  filled : ∀ entry ∈ set, entry.2 ≠ .null

theorem Shows.of_same {d other : Document} {set : Object} (shows : d.Shows set)
    (same : other.presentation = d.presentation) : other.Shows set := by
  simp only [presentation, Prod.mk.injEq] at same
  obtain ⟨sorts, highlight, offset, size, minScore, source⟩ := same
  exact ⟨offset ▸ shows.offset, size ▸ shows.size, minScore ▸ shows.minScore, sorts ▸ shows.sorts,
    highlight ▸ shows.highlight, source ▸ shows.source, shows.filled⟩

theorem shows_empty : empty.Shows [] := ⟨rfl, rfl, rfl, rfl, rfl, rfl, List.forall_mem_nil _⟩

end Document

namespace Search

theorem presentation_addAll (s : Search) (added : List Clause) :
    (s.addAll added).document.presentation = s.document.presentation := by
  induction added generalizing s with
  | nil => rfl
  | cons clause rest ih => exact ih (s.add clause)

theorem presentation_apply (s : Search) {change : Change} (nothing : change.sets = []) :
    (s.apply change).document.presentation = s.document.presentation := by
  cases change with
  | clauses added => exact s.presentation_addAll added
  | sorts added =>
    have none : added = [] := List.map_eq_nil_iff.mp nothing
    simp only [none, apply, withDocument, Document.presentation, List.append_nil]
  | _ => first | rfl | cases nothing

theorem presentation_applyAll (s : Search) {changes : List Change}
    (nothing : ∀ change ∈ changes, change.sets = []) :
    (s.applyAll changes).document.presentation = s.document.presentation := by
  induction changes generalizing s with
  | nil => rfl
  | cons change rest ih =>
    obtain ⟨first, others⟩ := List.forall_mem_cons.mp nothing
    exact (ih _ others).trans (s.presentation_apply first)

theorem shows_apply {s : Search} {set : Object} (shows : s.document.Shows set) {change : Change}
    (filled : ∀ entry ∈ change.sets, entry.2 ≠ .null) :
    (s.apply change).document.Shows (set ++ change.sets) := by
  have all : ∀ entry ∈ set ++ change.sets, entry.2 ≠ .null :=
    List.forall_mem_append.mpr ⟨shows.filled, filled⟩
  have same (nothing : change.sets = []) :
      (s.apply change).document.Shows (set ++ change.sets) := by
    rw [nothing, List.append_nil]
    exact shows.of_same (s.presentation_apply nothing)
  have alone (key name : String) (value : Json) :
      Object.last? (set ++ [(name, value)]) key =
        if name = key then some value else set.last? key := by
    rw [Object.last?_append, Object.last?_single]
    split <;> rfl
  obtain ⟨offset, size, minScore, sorts, highlight, source, _⟩ := shows
  cases change with
  -- Sorts are added to those before them; every other value takes the place of the one before.
  | sorts added =>
    have other (key : String) (differs : "sort" ≠ key) :
        Object.last? (set ++ (Change.sorts added).sets) key = set.last? key := by
      rw [Object.last?_append, Change.sets, Object.last?, Object.valuesAt_map, if_neg differs]
      rfl
    have sorted : (s.document.sorts ++ added).map FieldSort.toJson =
        Object.valuesAt (set ++ (Change.sorts added).sets) "sort" := by
      rw [Object.valuesAt_append, Change.sets, Object.valuesAt_map, if_pos rfl, ← sorts,
        List.map_append]
    exact ⟨offset.trans (other "from" (by decide)).symm, size.trans (other "size" (by decide)).symm,
      minScore.trans (congrArg _ (other "min_score" (by decide)).symm), sorted,
      highlight.trans (other "highlight" (by decide)).symm,
      source.trans (other "_source" (by decide)).symm, all⟩
  | offset | size | minScore | highlight | source =>
    refine ⟨?_, ?_, ?_, ?_, ?_, ?_, all⟩ <;>
      simp [Change.sets, apply, withDocument, Json.ofOption, *]
  | _ => exact same rfl

theorem shows_applyAll {s : Search} {set : Object} (shows : s.document.Shows set)
    {changes : List Change}
    (filled : ∀ change ∈ changes, ∀ entry ∈ change.sets, entry.2 ≠ .null) :
    (s.applyAll changes).document.Shows (set ++ changes.flatMap Change.sets) := by
  induction changes generalizing s set with
  | nil =>
    rw [List.flatMap_nil, List.append_nil]
    exact shows
  | cons change rest ih =>
    obtain ⟨first, others⟩ := List.forall_mem_cons.mp filled
    rw [List.flatMap_cons, ← List.append_assoc]
    exact ih (shows_apply shows first) others

end Search

namespace Edit

theorem isNumber_of_changeOf {e : Edit} {a : Object} {score : Json}
    (made : e.changeOf a = .ok (.minScore score)) : score.isNumber = true := by
  cases e with
  | minScore =>
    obtain ⟨value, numbered, same⟩ := bind_eq_ok.mp made
    cases same
    obtain ⟨rfl, number⟩ := numberIn_eq_ok.mp numbered
    exact number
  | role role => cases made
  | minimumShouldMatch => cases made
  | _ =>
    obtain ⟨_, _, same⟩ := bind_eq_ok.mp made
    cases same

theorem filled_of_change {e : Edit} {args : Object} {change : Change}
    (accepted : e.change args = .ok change) : ∀ entry ∈ change.sets, entry.2 ≠ .null := by
  intro entry listed null
  cases change with
  | minScore score =>
    obtain ⟨a, _, made⟩ := bind_eq_ok.mp accepted
    have number := isNumber_of_changeOf made
    cases List.mem_singleton.mp listed
    cases null
    cases number
  | sorts added =>
    obtain ⟨sort, _, rfl⟩ := List.mem_map.mp listed
    cases null
  | source filter =>
    cases List.mem_singleton.mp listed
    cases filter <;> cases null
  | offset | size | highlight =>
    cases List.mem_singleton.mp listed
    cases null
  | _ => cases listed

end Edit

namespace SearchStep

def windowOf : Json → Json → Object
  | .int size, .int number =>
      if 1 ≤ size ∧ 1 ≤ number then [("from", .int (size * (number - 1))), ("size", .int size)]
      else []
  | _, _ => []

/-- The window that is asked for, in which what is not given is left to the world. -/
def windowAsked (w : World) (limit number : Json) : Object :=
  windowOf (if limit.isNull then w.defaultPageSize else limit)
    (if number.isNull then w.pages.next.1 else number)

def sets (w : World) : SearchStep → Object
  | .edit e args => e.sets args
  | .paginate args => match Search.paginateSignature.bind args with
      | .error _ => []
      | .ok _ => windowAsked w (args.field "limit") (args.field "page")
  | _ => []

/-- What a step of a run sets. One that fails sets nothing, but for the window of a page, which is
set before the page is asked for. -/
def setting (step : SearchStep) (w : World) (s : Search) : Object :=
  match (step.run w s).result, step with
  | .ok _, _ => step.sets w
  | .error _, .paginate args => (paginate args).sets w
  | .error _, _ => []

def settings : List SearchStep → World × Search → Object
  | [], _ => []
  | step :: rest, state =>
      step.setting state.1 state.2 ++ settings rest (step.run state.1 state.2).state

def isOfQuery : SearchStep → Bool
  | .edit (.role _) _ | .leaf .. | .append .. | .nested .. | .functions .. | .aggregate .. => true
  | _ => false

theorem setting_of_nothing {step : SearchStep} {w : World} (nothing : step.sets w = [])
    (s : Search) : step.setting w s = [] := by
  unfold setting
  split <;> first | exact nothing | rfl

theorem setting_paginate (args : Object) (w : World) (s : Search) :
    (paginate args).setting w s = (paginate args).sets w := by
  unfold setting
  split
  · rfl
  · rename_i same
    cases same
    rfl
  · rename_i other
    exact absurd rfl (other args)

theorem windowAsked_of_ok {w : World} {limit number : Json} {page : Page}
    (accepted : (w.page limit number).1 = .ok page) :
    windowAsked w limit number = [("from", .int page.offset), ("size", .int page.size)] := by
  obtain ⟨size, asked⟩ := World.page_eq_ok.mp accepted
  have sized := page.size_pos
  have numbered := page.number_pos
  have offset : (page.offset : Int) = page.size * ((page.number : Int) - 1) := by
    rw [Page.offset, Int.natCast_mul, Int.ofNat_sub numbered]
    rfl
  rw [windowAsked, size, asked, windowOf, if_pos ⟨by omega, by omega⟩, offset]

theorem windowAsked_of_error {w : World} {limit number : Json} {failure : Failure}
    (refused : (w.page limit number).1 = .error failure) : windowAsked w limit number = [] := by
  unfold windowAsked windowOf
  split
  · rename_i size page sized numbered
    split
    · rename_i counted
      -- Both are counted from one, so the page that they mean would be accepted.
      have meant : w.Means limit number ⟨size.toNat, page.toNat, by omega, by omega⟩ :=
        ⟨sized.trans (congrArg Json.int (Int.toNat_of_nonneg (by omega)).symm),
          numbered.trans (congrArg Json.int (Int.toNat_of_nonneg (by omega)).symm)⟩
      cases refused.symm.trans (World.page_eq_ok.mpr meant)
    · rfl
  · rfl

theorem sets_pageChanges (w : World) (args : Object) :
    (pageChanges w args).flatMap Change.sets = (paginate args).sets w := by
  simp only [pageChanges, sets]
  cases bound : Search.paginateSignature.bind args with
  | error failure => rfl
  | ok a =>
    simp only [Signature.argument_of_bind bound "limit" rfl rfl,
      Signature.argument_of_bind bound "page" rfl rfl]
    cases accepted : (w.page (args.field "limit") (args.field "page")).1 with
    | ok page =>
      rw [windowAsked_of_ok accepted]
      rfl
    | error failure =>
      rw [windowAsked_of_error accepted]
      rfl

theorem sets_changes (step : SearchStep) (w : World) (s : Search) :
    (step.changes w).flatMap Change.sets = step.setting w s := by
  have clauses (attempt : Except Failure Clause) :
      (granted (added attempt)).flatMap Change.sets = [] := by
    cases attempt <;> rfl
  cases step with
  | edit e args =>
    simp only [changes, setting, run, changed_result]
    cases accepted : e.change args with
    | error failure => rfl
    | ok change =>
      rw [granted, List.flatMap_singleton, Edit.sets_of_change accepted]
      rfl
  | leaf kind args =>
    rw [setting_of_nothing rfl, changes, LeafKind.change]
    cases kind.request args <;> rfl
  | append spec =>
    rw [setting_of_nothing rfl, changes, appended]
    cases Clause.ofJson spec <;> rfl
  | nested args build => exact (clauses _).trans (setting_of_nothing rfl s).symm
  | functions args build score => exact (clauses _).trans (setting_of_nothing rfl s).symm
  | paginate args => exact (sets_pageChanges w args).trans (setting_paginate args w s).symm
  | _ => exact (setting_of_nothing rfl s).symm

theorem filled_changes (step : SearchStep) (w : World) :
    ∀ change ∈ step.changes w, ∀ entry ∈ change.sets, entry.2 ≠ .null := by
  intro change listed
  cases makes_of_mem listed with
  | edit accepted => exact Edit.filled_of_change accepted
  | offset page | size page => exact List.forall_mem_singleton.mpr (by rintro ⟨⟩)
  | _ => exact List.forall_mem_nil _

theorem presentation_withAggregations (step : SearchStep) (s : Search) :
    (step.withAggregations s).document.presentation = s.document.presentation := by
  unfold withAggregations
  split
  · rename_i steps
    split
    · rfl
    · obtain ⟨table, grouped⟩ := AggregationStep.regroups_runAll steps s.document
      rw [grouped]
      rfl
  · rfl

theorem shows_run {s : Search} {set : Object} (shows : s.document.Shows set) (step : SearchStep)
    (w : World) : (step.run w s).state.2.document.Shows (set ++ step.setting w s) := by
  rw [search_run, ← sets_changes]
  exact Search.shows_applyAll (shows.of_same (step.presentation_withAggregations s))
    (step.filled_changes w)

theorem shows_final {w : World} {s : Search} {set : Object} (shows : s.document.Shows set)
    (steps : List SearchStep) :
    (final steps (w, s)).2.document.Shows (set ++ settings steps (w, s)) := by
  induction steps generalizing w s set with
  | nil =>
    change s.document.Shows (set ++ [])
    rwa [List.append_nil]
  | cons step rest ih =>
    have others := ih (w := (step.run w s).state.1) (shows_run shows step w)
    rw [List.append_assoc] at others
    rw [final, Outcome.last_each_cons]
    exact others

theorem sets_of_query {step : SearchStep} (ofQuery : step.isOfQuery = true) (w : World) :
    step.sets w = [] := by
  cases step with
  | edit e args => cases e <;> first | rfl | cases ofQuery
  | _ => first | rfl | cases ofQuery

theorem presentation_of_query {step : SearchStep} (ofQuery : step.isOfQuery = true) (w : World)
    (s : Search) : (step.run w s).state.2.document.presentation = s.document.presentation := by
  have nothing : (step.changes w).flatMap Change.sets = [] := by
    rw [sets_changes step w s]
    exact setting_of_nothing (sets_of_query ofQuery w) s
  rw [search_run, ← step.presentation_withAggregations s]
  exact Search.presentation_applyAll _ (List.flatMap_eq_nil_iff.mp nothing)

end SearchStep

namespace Document

variable {d : Document} {body set : Object}

def window (d : Document) : Object :=
  [("from", .ofCount? d.offset), ("size", .ofCount? d.size), ("min_score", d.minScore),
   ("_source", Json.ofOption (d.source.map SourceFilter.toJson))]

theorem get?_body {key : String} (compiled : d.body = .ok body) (query : key ≠ "query")
    (aggregations : key ≠ "aggs") :
    body.get? key =
      ((Object.get? d.sortEntry key).or (Object.get? d.highlightEntry key)).or
        (Object.get? d.windowEntries key) := by
  obtain ⟨queries, groups, queried, grouped, rfl⟩ := body_eq_ok.mp compiled
  have unqueried : Object.get? queries key = none :=
    Object.get?_eq_none.mpr fun listed => query (mem_keys_queryEntry queried listed)
  have ungrouped : Object.get? groups key = none :=
    Object.get?_eq_none.mpr fun listed => aggregations (mem_keys_aggregationsEntry grouped listed)
  simp only [furtherEntries, Object.get?_append, unqueried, ungrouped, Option.none_or]

theorem get?_windowEntries (d : Document) (key : String) :
    Object.get? d.windowEntries key =
      (Object.get? d.window key).filter fun value => !value.isNull := by
  refine Object.get?_given ?_ key
  change ["from", "size", "min_score", "_source"].Nodup
  decide

theorem ofCount?_eq (count : Option Nat) :
    Json.ofCount? count = Json.ofOption (count.map fun n : Nat => .int n) := by
  cases count <;> rfl

namespace Shows

theorem last?_ne_null (shows : d.Shows set) (key : String) : set.last? key ≠ some .null := by
  intro null
  have listed := Object.mem_of_mem_valuesAt (List.mem_of_getLast? null)
  exact shows.filled _ listed rfl

theorem get?_windowEntries (shows : d.Shows set) {key : String} {value : Json}
    (written : Object.get? d.window key = some value)
    (same : value = Json.ofOption (set.last? key)) :
    Object.get? d.windowEntries key = set.last? key := by
  have filled := shows.last?_ne_null key
  rw [Document.get?_windowEntries, written, same, Option.filter_some]
  cases last : set.last? key with
  | none => rfl
  | some json =>
    have solid : json.isNull = false := by
      cases json <;> first | rfl | exact absurd last filled
    simp only [Json.ofOption, solid, Bool.not_false, if_true]

theorem get?_of_latest (shows : d.Shows set) (compiled : d.body = .ok body) :
    ∀ key ∈ ["from", "size", "min_score", "highlight", "_source"],
      body.get? key = set.last? key := by
  intro key among
  have entries : body.get? key = _ :=
    get?_body compiled (by rintro rfl; simp at among) (by rintro rfl; simp at among)
  have unsorted : Object.get? d.sortEntry key = none :=
    Object.get?_eq_none.mpr fun listed => by
      rw [mem_keys_sortEntry listed] at among
      simp at among
  have plain (other : key ≠ "highlight") : Object.get? d.highlightEntry key = none :=
    Object.get?_eq_none.mpr fun listed => other (mem_keys_highlightEntry listed)
  rw [entries, unsorted, Option.none_or]
  simp only [List.mem_cons, List.not_mem_nil, or_false] at among
  rcases among with rfl | rfl | rfl | rfl | rfl
  · rw [plain (by decide), Option.none_or]
    exact shows.get?_windowEntries rfl ((ofCount?_eq _).trans (congrArg _ shows.offset))
  · rw [plain (by decide), Option.none_or]
    exact shows.get?_windowEntries rfl ((ofCount?_eq _).trans (congrArg _ shows.size))
  · rw [plain (by decide), Option.none_or]
    exact shows.get?_windowEntries rfl shows.minScore
  · rw [Document.get?_windowEntries, ← shows.highlight, highlightEntry]
    cases d.highlight <;> rfl
  · rw [plain (by decide), Option.none_or]
    exact shows.get?_windowEntries rfl (congrArg _ shows.source)

theorem get?_sort (shows : d.Shows set) (compiled : d.body = .ok body) :
    body.get? "sort" =
      if set.valuesAt "sort" = [] then none else some (.arr (set.valuesAt "sort")) := by
  have plain : Object.get? d.highlightEntry "sort" = none :=
    Object.get?_eq_none.mpr fun listed => absurd (mem_keys_highlightEntry listed) (by decide)
  rw [get?_body compiled (by decide) (by decide), Document.get?_windowEntries, plain,
    ← shows.sorts, sortEntry]
  cases d.sorts <;> rfl

end Shows

end Document

open SearchStep in
/-- After a run whose body is written, that body has beside the query and the aggregations what the
steps of the run have set: of the window, the least score, the highlighting and the fields that are
returned what was set last, and of the sorts all of them in order. Steps on the query and the
aggregations leave these parts as they are. -/
theorem last_settings_stand :
    (∀ (w : World) (steps : List SearchStep) (body : Object),
      (final steps (w, .fresh)).2.document.body = .ok body →
      let set := settings steps (w, .fresh)
      body.keys.Sublist Document.bodyKeys ∧
        (∀ key ∈ ["from", "size", "min_score", "highlight", "_source"],
          body.get? key = set.last? key) ∧
        body.get? "sort" =
          if set.valuesAt "sort" = [] then none else some (.arr (set.valuesAt "sort"))) ∧
    ∀ (step : SearchStep) (w : World) (s : Search), step.isOfQuery = true →
      (step.run w s).state.2.document.presentation = s.document.presentation := by
  refine ⟨fun w steps body compiled => ?_,
    fun step w s ofQuery => presentation_of_query ofQuery w s⟩
  have shows := shows_final (w := w) (s := .fresh) Document.shows_empty steps
  exact ⟨Document.keys_of_body compiled, shows.get?_of_latest compiled, shows.get?_sort compiled⟩

def SearchStep.presented : List SearchStep :=
  [.edit .offset [("offset", .int 5)],
   .edit .minScore [("score", .int 0)],
   .edit .sortBy [("fields", .arr [.str "price", .str "brand"]), ("order", .str "asc"),
     ("parameters", .obj [("order", .str "desc"), ("mode", .str "min")])],
   .edit .highlight [("fields", .str "title"), ("pre_tag", .str "<b>")],
   .edit .source [("includes", .arr [.str "title"])],
   .paginate [("limit", .int 10), ("page", .int 3)],
   .edit .sortBy [("fields", .str "_score")],
   .edit .highlight [("parameters", .obj [("fragment_size", .int 80)])],
   .edit .size [("limit", .int 0)],
   .edit .size [("limit", .int (-1))],
   .edit .source [("includes", .arr [])]]

open SearchStep in
theorem last_settings_stand_presented :
    (SearchStep.isOfQuery (.edit (.role .filter) []) = true ∧
      ((SearchStep.edit (.role .filter) []).run .isolated .fresh).state.2.document.presentation =
        Document.empty.presentation) ∧
    ∃ body, (final presented (.isolated, .fresh)).2.document.body = .ok body ∧
      body.get? "from" = some (.int 20) ∧ body.get? "size" = some (.int 0) ∧
      body.get? "min_score" = some (.int 0) ∧ body.get? "_source" = some (.bool false) ∧
      body.get? "highlight" = some (.obj
        [("pre_tags", .arr [.str "<mark>"]), ("post_tags", .arr [.str "</mark>"]),
         ("fields", .obj [("*", .obj [])]), ("fragment_size", .int 80)]) ∧
      body.get? "sort" = some (.arr
        [Object.only "price" (.obj [("order", .str "asc"), ("mode", .str "min")]),
         Object.only "brand" (.obj [("order", .str "asc"), ("mode", .str "min")]),
         Object.only "_score" (.obj [])]) := by
  obtain ⟨body, compiled⟩ : Succeeds (final presented (.isolated, .fresh)).2.document.body :=
    ⟨_, rfl⟩
  obtain ⟨_, latest, sorts⟩ := last_settings_stand.1 .isolated presented body compiled
  refine ⟨⟨rfl, last_settings_stand.2 _ .isolated .fresh rfl⟩, body, compiled,
    ?_, ?_, ?_, ?_, ?_, ?_⟩
  · exact (latest "from" (by decide)).trans rfl
  · exact (latest "size" (by decide)).trans rfl
  · exact (latest "min_score" (by decide)).trans rfl
  · exact (latest "_source" (by decide)).trans rfl
  · exact (latest "highlight" (by decide)).trans rfl
  · exact sorts.trans rfl

end SearchRequest
