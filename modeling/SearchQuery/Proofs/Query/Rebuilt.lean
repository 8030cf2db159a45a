import Mathlib
import SearchQuery.Proofs.Query.Accepted
import SearchQuery.Query.Change

/-!
# Changing and rebuilding

A built query can be changed, or its settings can be changed and the query
built again. The two come to the same: what calls leave of a query is what
its settings build once the accepted changes stand in them, the last of
each kind. An order that was cleared is the order of no keys.

The checks of a change and those of a build are written apart. What
connects them is one step (`Rebuilds.step`): an accepted change, put into
the settings, builds the changed query. The run of any number of calls
follows by induction (`Rebuilds.build_settled`), and it needs nothing of a
refused call but that it leaves the query as it was.
-/

namespace SearchQuery.Query

/-! ## Settings after changes -/

/-- The last value that changes give to a setting. -/
def last? {κ α : Type} (given? : κ → Option α) (changes : List κ) : Option α :=
  (changes.filterMap given?).getLast?

section Last

variable {κ α : Type} (given? : κ → Option α)

/-- A value that is given is the last one if no later one is. -/
theorem last?_cons_of_some {change : κ} {a : α} (h : given? change = some a) (changes : List κ) :
    last? given? (change :: changes) = some ((last? given? changes).getD a) := by
  rw [last?, List.filterMap_cons_some h, List.getLast?_cons]
  rfl

/-- A change that gives nothing leaves what later ones give. -/
theorem last?_cons_of_none {change : κ} (h : given? change = none) (changes : List κ) :
    last? given? (change :: changes) = last? given? changes := by
  rw [last?, List.filterMap_cons_none h]
  rfl

/-- What a setting is after changes is what the later ones make of what the
first makes of it. -/
theorem getD_last?_cons (change : κ) (changes : List κ) (a : α) :
    (last? given? (change :: changes)).getD a
      = (last? given? changes).getD ((last? given? [change]).getD a) := by
  cases h : given? change with
  | none => rw [last?_cons_of_none given? h, last?_cons_of_none given? h]; rfl
  | some b => rw [last?_cons_of_some given? h, last?_cons_of_some given? h]; rfl

end Last

/-- The specification that a change of the order asks for: no order is the
order of no keys. -/
def OrderChange.spec : OrderChange → SortSpec
  | sortBy spec => spec
  | clearSort => .keys []

/-- The results with changes of the order in them. -/
def Results.settled (results : Results) (changes : List OrderChange) : Results :=
  { results with
    sortBy := (last? (fun change => some (some change.spec)) changes).getD results.sortBy }

/-- The settings of a search for neighbours with changes in them. -/
def Nearest.Draft.settled (draft : Draft) (changes : List OrderChange) : Draft :=
  { draft with results := draft.results.settled changes }

/-- The settings of a search for words with changes in them. -/
def FullText.Draft.settled (draft : Draft) (changes : List OrderChange) : Draft :=
  { draft with results := draft.results.settled changes }

/-- The settings of a listing with changes in them. -/
def Listing.Draft.settled (draft : Draft) (changes : List OrderChange) : Draft :=
  { draft with results := draft.results.settled changes }

namespace Range

namespace Change

/-- The distance that a change gives. -/
def threshold? : Change → Option Double
  | threshold distance => some distance
  | _ => none

/-- The approximation factor that a change gives, or takes away. -/
def epsilon? : Change → Option (Option Double)
  | epsilon factor => some (some factor)
  | clearEpsilon => some none
  | _ => none

/-- The change of the order that a change is. -/
def order? : Change → Option OrderChange
  | order change => some change
  | _ => none

end Change

/-- The settings of a range with changes in them: the last distance, the
last approximation factor and the last order. -/
def Draft.settled (draft : Draft) (changes : List Change) : Draft :=
  { draft with
    threshold := (last? Change.threshold? changes).getD draft.threshold
    epsilon := (last? Change.epsilon? changes).getD draft.epsilon
    results := draft.results.settled (changes.filterMap Change.order?) }

end Range

/-- Results are settled change by change. -/
theorem Results.settled_cons (results : Results) (change : OrderChange)
    (changes : List OrderChange) :
    results.settled (change :: changes) = (results.settled [change]).settled changes := by
  rw [settled, getD_last?_cons]
  rfl

/-- The draft of a range query is settled change by change. -/
theorem Range.Draft.settled_cons (draft : Draft) (change : Change) (changes : List Change) :
    draft.settled (change :: changes) = (draft.settled [change]).settled changes := by
  have hresults : draft.results.settled ((change :: changes).filterMap Change.order?)
      = (draft.results.settled ([change].filterMap Change.order?)).settled
        (changes.filterMap Change.order?) := by
    cases change with
    | order change => exact Results.settled_cons draft.results change _
    | _ => rfl
  rw [settled, getD_last?_cons Change.threshold?, getD_last?_cons Change.epsilon?, hresults]
  rfl

/-! ## Runs -/

section Runs

variable {δ σ κ α : Type}

/-- A change that a call refuses leaves the query as it was, and one that it
accepts is one that a build accepts among the settings. -/
structure Rebuilds (build : δ → Except Invalid σ) (call : κ → Call σ α)
    (settled : δ → List κ → δ) : Prop where
  nil : ∀ draft, settled draft [] = draft
  /-- Changes are put into the settings one after the other. -/
  cons : ∀ draft change changes,
    settled draft (change :: changes) = settled (settled draft [change]) changes
  step : ∀ change query,
    (∃ cause, (call change).on query = (.error cause, query)) ∨
    ∃ answer next, (call change).on query = (.ok answer, next) ∧
      ∀ {draft}, build draft = .ok query → build (settled draft [change]) = .ok next

namespace Rebuilds

variable {build : δ → Except Invalid σ} {call : κ → Call σ α} {settled : δ → List κ → δ}

/-- What calls leave of a built query, its settings build with the accepted
changes in them. -/
theorem build_settled (h : Rebuilds build call settled) {draft : δ} {query : σ}
    (hbuild : build draft = .ok query) (changes : List κ) :
    build (settled draft (accepted call query changes)) = .ok (after call query changes) := by
  induction changes generalizing draft query with
  | nil =>
    rw [accepted, after, h.nil]
    exact hbuild
  | cons change changes ih =>
    rw [accepted, after]
    obtain ⟨cause, hcall⟩ | ⟨answer, next, hcall, hstep⟩ := h.step change query
    · rw [hcall]
      exact ih hbuild
    · rw [hcall]
      change build (settled draft (change :: accepted call next changes)) = _
      rw [h.cons]
      exact ih (hstep hbuild)

/-- A refused call leaves the query as it was. -/
theorem on_eq_of_refused (h : Rebuilds build call settled) {change : κ} {query next : σ}
    {cause : Invalid} (hcall : (call change).on query = (.error cause, next)) : next = query := by
  obtain ⟨cause', hkept⟩ | ⟨answer, next', haccepted, -⟩ := h.step change query
  · rw [hkept] at hcall
    exact (congrArg Prod.snd hcall).symm
  · rw [haccepted] at hcall
    cases congrArg Prod.fst hcall

end Rebuilds

end Runs

/-! ## Steps -/

/-- A call that checks the query first goes on where the check answers, and
leaves the query as it is where the check refuses. -/
theorem Call.on_check {σ α β : Type} (check : σ → Except Invalid β) (next : β → Call σ α)
    (query : σ) :
    Call.on (do next (← check (← get))) query =
      match check query with
      | .ok b => (next b).on query
      | .error cause => (.error cause, query) := by
  change StateT.run (ExceptT.bindCont next (check query)) query = _
  cases check query <;> rfl

/-- A call for another order is refused where the order is, and otherwise
sorts by the key that the order is reduced to. -/
theorem OrderChange.on_call {σ : Type} [Ordered σ] (change : OrderChange) (query : σ) :
    (∃ cause, change.spec.normalize = .error cause ∧ change.call.on query = (.error cause, query)) ∨
    (∃ order answer, change.spec.normalize = .ok order ∧
      change.call.on query = (.ok answer,
        Ordered.withOptions { Ordered.options query with sortBy := order.key } query)) := by
  cases change with
  | clearSort => exact .inr ⟨.unsorted, none, rfl, rfl⟩
  | sortBy spec =>
    rw [call, Call.on_check (fun query => reorder spec (Ordered.options query)), reorder]
    cases h : spec.normalize with
    | error cause => exact .inl ⟨cause, h, rfl⟩
    | ok order => exact .inr ⟨order, some order, h, rfl⟩

/-- Results whose order is changed are checked like those before, and sorted
by the key of the new order. -/
theorem Results.check_settled {results : Results} {byDefault : Option SortKey}
    {options : SearchOptions} {change : OrderChange} {order : SortOrder}
    (h : results.check byDefault = .ok options) (horder : change.spec.normalize = .ok order) :
    (results.settled [change]).check byDefault = .ok { options with sortBy := order.key } := by
  obtain ⟨hnum, hdialect, hfields, -, -, rfl⟩ := check_eq_ok.mp h
  have hkey : sortKey (some change.spec) byDefault = .ok order.key := by
    rw [sortKey, horder]
    rfl
  exact check_eq_ok.mpr ⟨hnum, hdialect, hfields, order.key, hkey, rfl⟩

/-- A query of which nothing but the order can be changed. -/
theorem Rebuilds.ofOrdered {δ σ : Type} [Ordered σ] {build : δ → Except Invalid σ}
    {settled : δ → List OrderChange → δ} (nil : ∀ draft, settled draft [] = draft)
    (cons : ∀ draft change changes,
      settled draft (change :: changes) = settled (settled draft [change]) changes)
    (step : ∀ {draft change query order}, build draft = .ok query →
      change.spec.normalize = .ok order →
      build (settled draft [change]) = .ok
        (Ordered.withOptions { Ordered.options query with sortBy := order.key } query)) :
    Rebuilds build OrderChange.call settled where
  nil := nil
  cons := cons
  step := by
    intro change query
    obtain ⟨cause, -, hcall⟩ | ⟨order, answer, horder, hcall⟩ := change.on_call query
    · exact .inl ⟨cause, hcall⟩
    · exact .inr ⟨answer, _, hcall, fun hbuild => step hbuild horder⟩

/-- A listing is changed as if it were built with the new order. -/
theorem Listing.rebuilds : Rebuilds Draft.build OrderChange.call Draft.settled := by
  refine .ofOrdered (fun _ => rfl) ?_ ?_
  · intro draft change changes
    rw [Draft.settled, Results.settled_cons]
    rfl
  · intro draft change query order hbuild horder
    obtain ⟨options, hoptions, rfl⟩ := Draft.build_eq_ok.mp hbuild
    exact Draft.build_eq_ok.mpr ⟨_, Results.check_settled hoptions horder, rfl⟩

/-- A full-text query is changed as if it were built with the new order. -/
theorem FullText.rebuilds : Rebuilds Draft.build OrderChange.call Draft.settled := by
  refine .ofOrdered (fun _ => rfl) ?_ ?_
  · intro draft change changes
    rw [Draft.settled, Results.settled_cons]
    rfl
  · intro draft change query order hbuild horder
    obtain ⟨hsome, hfields, hscorer, words, hwords, options, hoptions, rfl⟩ :=
      Draft.build_eq_ok.mp hbuild
    exact Draft.build_eq_ok.mpr ⟨hsome, hfields, hscorer, words, hwords, _,
      Results.check_settled hoptions horder, rfl⟩

/-- Whether the distance is returned does not depend on the order. -/
theorem returningDistance_withKey (options : SearchOptions) (key : Option SortKey) :
    returningDistance { options with sortBy := key }
      = { returningDistance options with sortBy := key } := by
  unfold returningDistance
  split <;> rfl

/-- A search for neighbours is changed as if it were built with the new
order. -/
theorem Nearest.rebuilds : Rebuilds Draft.build OrderChange.call Draft.settled := by
  refine .ofOrdered (fun _ => rfl) ?_ ?_
  · intro draft change changes
    rw [Draft.settled, Results.settled_cons]
    rfl
  · intro draft change query order hbuild horder
    obtain ⟨htuning, clause, hclause, options, hoptions, rfl⟩ := Draft.build_eq_ok.mp hbuild
    have hreturned : (if draft.returnScore then returningDistance { options with sortBy := order.key }
        else { options with sortBy := order.key })
        = { (if draft.returnScore then returningDistance options else options) with
            sortBy := order.key } := by
      split
      · exact returningDistance_withKey options order.key
      · rfl
    exact Draft.build_eq_ok.mpr ⟨htuning, clause, hclause, _, Results.check_settled hoptions horder,
      congrArg (Nearest.mk draft.vector draft.restriction clause draft.tuning draft.returnScore)
        hreturned⟩

namespace Range

/-- A range query is changed as if it were built with the new order, threshold
or epsilon. -/
theorem rebuilds : Rebuilds Draft.build Change.call Draft.settled where
  nil _ := rfl
  cons := Draft.settled_cons
  step := by
    intro change query
    cases change with
    | threshold distance =>
      rw [Change.call, Call.on_check (setThreshold distance), setThreshold]
      cases hcheck : checkThreshold query.normalize distance with
      | error cause => exact .inl ⟨cause, rfl⟩
      | ok accepted =>
        refine .inr ⟨none, _, rfl, ?_⟩
        intro draft hbuild
        obtain ⟨threshold, -, epsilon, hepsilon, options, hoptions, rfl⟩ :=
          Draft.build_eq_ok.mp hbuild
        exact Draft.build_eq_ok.mpr ⟨accepted, hcheck, epsilon, hepsilon, options, hoptions, rfl⟩
    | epsilon factor =>
      rw [Change.call, Call.on_check (setEpsilon factor), setEpsilon]
      cases hcheck : checkEpsilon factor with
      | error cause => exact .inl ⟨cause, rfl⟩
      | ok accepted =>
        refine .inr ⟨none, _, rfl, ?_⟩
        intro draft hbuild
        obtain ⟨threshold, hthreshold, epsilon, -, options, hoptions, rfl⟩ :=
          Draft.build_eq_ok.mp hbuild
        have hepsilon : (some factor).mapM checkEpsilon = .ok (some accepted) := by
          rw [Option.mapM_some, hcheck]
          rfl
        exact Draft.build_eq_ok.mpr
          ⟨threshold, hthreshold, some accepted, hepsilon, options, hoptions, rfl⟩
    | clearEpsilon =>
      refine .inr ⟨none, _, rfl, ?_⟩
      intro draft hbuild
      obtain ⟨threshold, hthreshold, epsilon, -, options, hoptions, rfl⟩ :=
        Draft.build_eq_ok.mp hbuild
      exact Draft.build_eq_ok.mpr ⟨threshold, hthreshold, none, rfl, options, hoptions, rfl⟩
    | order change =>
      obtain ⟨cause, -, hcall⟩ | ⟨order, answer, horder, hcall⟩ := change.on_call query
      · exact .inl ⟨cause, hcall⟩
      · refine .inr ⟨answer, _, hcall, ?_⟩
        intro draft hbuild
        obtain ⟨threshold, hthreshold, epsilon, hepsilon, options, hoptions, rfl⟩ :=
          Draft.build_eq_ok.mp hbuild
        exact Draft.build_eq_ok.mpr ⟨threshold, hthreshold, epsilon, hepsilon, _,
          Results.check_settled hoptions horder, congrArg
            (Range.mk draft.vector draft.restriction threshold epsilon draft.normalize)
            (returningDistance_withKey options order.key)⟩

end Range

/-! ## Any search -/

/-- Calls on a built query, accepted and refused in any order, come to the
same as building it again: its settings with the last accepted changes in
them build, and are sent as what the calls leave is sent. A refused call
leaves any query as it was. -/
def ChangesLikeRebuilt {δ σ κ α : Type} (build : δ → Except Invalid σ) (compile : σ → Compiled)
    (call : κ → Call σ α) (settled : δ → List κ → δ) : Prop :=
  (∀ draft query changes, build draft = .ok query →
    ∃ rebuilt, build (settled draft (accepted call query changes)) = .ok rebuilt ∧
      compile rebuilt = compile (after call query changes)) ∧
  ∀ change query cause next, (call change).on query = (.error cause, next) → next = query

/-- What holds of one change holds of any row of them, also of the commands that
are sent. -/
theorem Rebuilds.changesLikeRebuilt {δ σ κ α : Type} {build : δ → Except Invalid σ}
    {call : κ → Call σ α} {settled : δ → List κ → δ} (h : Rebuilds build call settled)
    (compile : σ → Compiled) : ChangesLikeRebuilt build compile call settled :=
  ⟨fun _ _ changes hbuild => ⟨_, h.build_settled hbuild changes, rfl⟩,
    fun _ _ _ _ hcall => h.on_eq_of_refused hcall⟩

/-- **Changing a built query is building it again.** It holds of the
distance, the approximation factor and the order of a range, and of the
order of every other search. -/
theorem changesLikeRebuilt_searches :
    ChangesLikeRebuilt Range.Draft.build Range.compile Range.Change.call Range.Draft.settled ∧
    ChangesLikeRebuilt Nearest.Draft.build Nearest.compile OrderChange.call
      Nearest.Draft.settled ∧
    ChangesLikeRebuilt FullText.Draft.build FullText.compile OrderChange.call
      FullText.Draft.settled ∧
    ChangesLikeRebuilt Listing.Draft.build Listing.compile OrderChange.call
      Listing.Draft.settled :=
  ⟨Range.rebuilds.changesLikeRebuilt _, Nearest.rebuilds.changesLikeRebuilt _,
    FullText.rebuilds.changesLikeRebuilt _, Listing.rebuilds.changesLikeRebuilt _⟩

/-- A range of normalized distances is set to one and to two, sorted by no
field and by one without a name. The second of either is refused, and an
order was cleared in between. -/
theorem changesLikeRebuilt_searches_mixed :
    let one : Double := ⟨false, 4607182418800017408, by decide⟩
    let two : Double := ⟨false, 4611686018427387904, by decide⟩
    let draft : Range.Draft := {
      vector := {
        values := [Binary.zero]
        field := "embedding"
        dtype := .float32
        weight := one
        payload := [0, 0, 0, 0]
      }
      threshold := Binary.zero
      epsilon := some one
      normalize := true
    }
    let changes := [Range.Change.threshold one, .order .clearSort, .threshold two, .clearEpsilon,
      .order (.sortBy (.field " "))]
    let settled := { draft with
      threshold := one, epsilon := none, results := { sortBy := some (.keys []) } }
    ∃ query, draft.build = .ok query ∧
      draft.settled (accepted Range.Change.call query changes) = settled ∧
      ∃ rebuilt, settled.build = .ok rebuilt ∧
        rebuilt.compile = (after Range.Change.call query changes).compile := by
  intro one two draft changes settled
  let query : Range :=
    ⟨draft.vector, .none, Binary.zero, some one, true, { sortBy := some nearestFirst }⟩
  have hbuild : draft.build = .ok query := by cbv
  have haccepted : draft.settled (accepted Range.Change.call query changes) = settled := by cbv
  exact ⟨query, hbuild, haccepted,
    haccepted ▸ changesLikeRebuilt_searches.1.1 draft query changes hbuild⟩

end SearchQuery.Query
