import SearchQuery.Proofs.Filter.Fragment
import SearchQuery.Proofs.Query.Overriding

/-!
# Trees and fragments are interchangeable

A query is restricted by a tree or by a fragment, and sends only what its
restriction is written as. So two restrictions that are written alike can
stand for each other, whatever calls set up the query besides.

For the kinds that are set up by calls this follows the calls. No check of a
query looks at its restriction, and the query compiles it by what it is written
as, so the call may be replaced if it is the last one (`Builder.sendsAlike` asks
for these two facts of each kind). A later call either overwrites it in both
sequences, or changes places with it (`Builder.sent_run_set`). A listing and a
count have their restriction from the start, and no later call changes it.

## What is proved

`tree_and_fragment_are_interchangeable`: a tree of leaves that are not in the
engine's own syntax is written as the fragment of that text is, and each kind
of query sends the same for both.
-/

namespace SearchQuery.Query

/-! ## Calls that send alike -/

namespace Builder

variable {δ κ ι σ : Type} (b : Builder δ κ ι σ)

/-- What is sent for a draft. -/
def sent (draft : δ) : Except Invalid Compiled := do return b.compile (← b.build draft)

/-- One call can be made in place of the other, whatever comes before and after
it: the same is sent, or refused for the same cause. -/
def SendsAlike (first second : κ) : Prop :=
  ∀ (draft : δ) (before after : List κ),
    (b.outcome draft (before ++ first :: after)).2
      = (b.outcome draft (before ++ second :: after)).2

variable [DecidableEq ι] {first second : κ} {i : ι}

/-- Calls of one setting that send the same when they are the last send the
same behind any calls. -/
theorem sent_run_set (hfirst : b.slot first = some i) (hsecond : b.slot second = some i)
    (hlast : ∀ draft, b.sent (b.set draft first) = b.sent (b.set draft second)) (draft : δ)
    (after : List κ) :
    b.sent (b.run (b.set draft first) after) = b.sent (b.run (b.set draft second) after) := by
  induction after generalizing draft with
  | nil => exact hlast draft
  | cons call after ih =>
    simp only [run, List.foldl_cons] at ih ⊢
    by_cases hcall : b.slot call = some i
    · rw [b.overwrite hfirst hcall, b.overwrite hsecond hcall]
    · have hne {other : κ} (hother : b.slot other = some i) : b.slot other ≠ b.slot call := by
        rw [hother]
        exact Ne.symm hcall
      rw [b.commute (hne hfirst), b.commute (hne hsecond)]
      exact ih (b.set draft call)

/-- Restrictions send alike if a query is built with any restriction that it
is given, and compiled by what that is written as. -/
theorem sendsAlike (i : ι) (place : Restriction → σ → σ) {restrict : Restriction → κ}
    (hslot : ∀ r, b.slot (restrict r) = some i)
    (hbuild : ∀ r draft, b.build (b.set draft (restrict r)) = place r <$> b.build draft)
    {r s : Restriction}
    (hcompile : ∀ query, b.compile (place r query) = b.compile (place s query)) :
    b.SendsAlike (restrict r) (restrict s) := by
  intro draft before after
  have hlast : ∀ draft, b.sent (b.set draft (restrict r)) = b.sent (b.set draft (restrict s)) := by
    intro draft
    rw [sent, sent, hbuild, hbuild]
    simp only [bind_map_left, hcompile]
  have hrun := b.sent_run_set (hslot r) (hslot s) hlast (b.run draft before) after
  simp only [outcome, run, List.foldl_append, List.foldl_cons]
  exact hrun

end Builder

/-! ## The kinds of queries -/

section Kinds

variable {r s : Restriction} (h : r.build = s.build)
include h

/-- A search for neighbours sends alike what is written alike. -/
theorem Nearest.sendsAlike : Nearest.builder.SendsAlike (.restriction r) (.restriction s) := by
  refine Nearest.builder.sendsAlike (1, 0) (fun r query => { query with restriction := r })
    (fun _ => rfl) ?_ ?_
  · intro r draft
    simp only [Nearest.builder, Nearest.Draft.set, Nearest.Draft.build, map_bind, map_pure]
  · intro query
    simp only [Nearest.builder, Nearest.compile, Nearest.queryString, h]
    rfl

/-- A range query sends alike what is written alike. -/
theorem Range.sendsAlike : Range.builder.SendsAlike (.restriction r) (.restriction s) := by
  refine Range.builder.sendsAlike (1, 0) (fun r query => { query with restriction := r })
    (fun _ => rfl) ?_ ?_
  · intro r draft
    simp only [Range.builder, Range.Draft.set, Range.Draft.build, map_bind, map_pure]
  · intro query
    simp only [Range.builder, Range.compile, Range.queryString, Restriction.isMatchAll, h]
    rfl

/-- A full-text query sends alike what is written alike: it asks whether the
restriction is the wildcard, which its text decides. -/
theorem FullText.sendsAlike : FullText.builder.SendsAlike (.restriction r) (.restriction s) := by
  refine FullText.builder.sendsAlike (1, 0) (fun r query => { query with restriction := r })
    (fun _ => rfl) ?_ ?_
  · intro r draft
    simp only [FullText.builder, FullText.Draft.set, FullText.Draft.build]
    split
    · rfl
    · simp only [map_bind, map_pure]
  · intro query
    simp only [FullText.builder, FullText.compile, FullText.queryString, Restriction.isMatchAll, h]
    rfl

/-- A hybrid query sends alike what is written alike, since it asks no more of
the restriction than full text does. -/
theorem Hybrid.sendsAlike : Hybrid.builder.SendsAlike (.restriction r) (.restriction s) := by
  refine Hybrid.builder.sendsAlike 1 (fun r query => { query with restriction := r })
    (fun _ => rfl) ?_ ?_
  · intro r draft
    simp only [Hybrid.builder, Hybrid.Draft.set, Hybrid.Draft.build, map_bind, map_pure]
  · intro query
    simp only [Hybrid.builder, Hybrid.compile, Hybrid.queryString, Hybrid.textPart,
      Restriction.isMatchAll, h]
    rfl

/-- A query over several vectors sends alike what is written alike. -/
theorem MultiVector.sendsAlike :
    MultiVector.builder.SendsAlike (.restriction r) (.restriction s) := by
  refine MultiVector.builder.sendsAlike 1 (fun r query => { query with restriction := r })
    (fun _ => rfl) ?_ ?_
  · intro r draft
    simp only [MultiVector.builder, MultiVector.Draft.set, MultiVector.Draft.build]
    split
    · rfl
    · simp only [map_bind, map_pure]
  · intro query
    simp only [MultiVector.builder, MultiVector.compile, MultiVector.queryString,
      Restriction.isMatchAll, h]
    rfl

end Kinds

/-! ## Kinds that are restricted from the start -/

/-- The calls that set up a listing leave its restriction as it is. -/
theorem Listing.run_eq (r : Restriction) (results : Results) (calls : List ResultSetting) :
    Listing.builder.run ⟨r, results⟩ calls = ⟨r, calls.foldl Results.set results⟩ := by
  induction calls generalizing results with
  | nil => rfl
  | cons call calls ih => exact ih (results.set call)

/-- A listing, which is begun with its restriction, sends alike what is written
alike. -/
theorem Listing.outcome_eq {r s : Restriction} (h : r.build = s.build) (results : Results)
    (calls : List ResultSetting) :
    (Listing.builder.outcome ⟨r, results⟩ calls).2
      = (Listing.builder.outcome ⟨s, results⟩ calls).2 := by
  simp only [Builder.outcome, Listing.run_eq]
  simp only [Listing.builder, Listing.Draft.build, bind_assoc, pure_bind, Listing.compile, h]

namespace Count

/-- What is sent for a count after the calls that set its dialect. -/
def sentAfter (restriction : Restriction) (dialects : List UInt32) : Except Invalid Compiled := do
  let query : Count := { restriction }
  return (← dialects.foldlM (fun query dialect => query.withDialect dialect) query).compile

/-- The dialect of a count is checked without a look at the restriction. -/
theorem withDialect_restriction (r : Restriction) (query : Count) (dialect : UInt32) :
    { query with restriction := r }.withDialect dialect
      = (fun query => { query with restriction := r }) <$> query.withDialect dialect := by
  simp only [withDialect, map_bind, map_pure]

/-- The calls leave the restriction as it is. -/
theorem foldlM_withDialect (r : Restriction) (query : Count) (dialects : List UInt32) :
    dialects.foldlM (fun query dialect => query.withDialect dialect)
        { query with restriction := r }
      = (fun query => { query with restriction := r }) <$>
        dialects.foldlM (fun query dialect => query.withDialect dialect) query := by
  induction dialects generalizing query with
  | nil => rfl
  | cons dialect dialects ih =>
    rw [List.foldlM_cons, List.foldlM_cons, withDialect_restriction, map_bind, bind_map_left]
    exact bind_congr fun next => ih next

/-- A count sends alike what is written alike, after any calls. -/
theorem sentAfter_eq {r s : Restriction} (h : r.build = s.build) (dialects : List UInt32) :
    sentAfter r dialects = sentAfter s dialects := by
  -- both are a count without a restriction that takes one at the end
  have hr := foldlM_withDialect r { restriction := .none } dialects
  have hs := foldlM_withDialect s { restriction := .none } dialects
  simp only [sentAfter, hr, hs, bind_map_left, compile, h]

end Count

/-! ## The two ways to restrict a query -/

/-- **Trees and fragments are interchangeable.** A tree whose leaves are not in
the engine's own syntax has no white space around it once it is written, so
the fragment of that text restricts as the tree does; and whichever of the two
is given to a query, and wherever among its calls, the same is sent or it is
refused for the same cause. -/
theorem tree_and_fragment_are_interchangeable {t : Filter} (h : t.Composed) :
    (Text.isBlank t.build = false ∧ Text.trim t.build = t.build) ∧
    ((Restriction.raw t.build).build = (Restriction.tree t).build ∧
      (Restriction.raw t.build).isMatchAll = (Restriction.tree t).isMatchAll) ∧
    (Nearest.builder.SendsAlike (.restriction (.raw t.build)) (.restriction (.tree t)) ∧
      Range.builder.SendsAlike (.restriction (.raw t.build)) (.restriction (.tree t)) ∧
      FullText.builder.SendsAlike (.restriction (.raw t.build)) (.restriction (.tree t)) ∧
      Hybrid.builder.SendsAlike (.restriction (.raw t.build)) (.restriction (.tree t)) ∧
      MultiVector.builder.SendsAlike (.restriction (.raw t.build)) (.restriction (.tree t))) ∧
    (∀ (results : Results) (calls : List ResultSetting),
      (Listing.builder.outcome ⟨.raw t.build, results⟩ calls).2
        = (Listing.builder.outcome ⟨.tree t, results⟩ calls).2) ∧
    ∀ dialects : List UInt32,
      Count.sentAfter (.raw t.build) dialects = Count.sentAfter (.tree t) dialects := by
  have htight := Filter.isTight_build_of_composed h
  have hbuild : (Restriction.raw t.build).build = (Restriction.tree t).build :=
    Restriction.build_raw htight
  have hmatch : (Restriction.raw t.build).isMatchAll = (Restriction.tree t).isMatchAll := by
    rw [Restriction.isMatchAll, Restriction.isMatchAll, hbuild]
  exact ⟨htight.trim_eq, ⟨hbuild, hmatch⟩,
    ⟨Nearest.sendsAlike hbuild, Range.sendsAlike hbuild, FullText.sendsAlike hbuild,
      Hybrid.sendsAlike hbuild, MultiVector.sendsAlike hbuild⟩,
    fun results calls => Listing.outcome_eq hbuild results calls,
    fun dialects => Count.sentAfter_eq hbuild dialects⟩

/-- A tree of values with white space around them, given after a restriction that
it overrides. -/
theorem tree_and_fragment_are_interchangeable_nested :
    let words := Filter.textLeaf "title" "@title:(wide screen)"
    let near := Filter.textLeaf "title" "@title:%scren%"
    let tags : Filter := .leaf ⟨.tag, "kind", "@kind:\x7bnew\x7d"⟩
    let t : Filter := .any [.not words, .all [.matchAll, near, tags]]
    let draft : FullText.Draft := { text := "wide" }
    let before : List FullText.Setting :=
      [.restriction (.raw "@year:[2020 2024]"), .field "title" WeightedField.plainWeight]
    Filter.text "title" "\t wide screen " = .ok words ∧ Filter.fuzzy "title" " scren\n" = .ok near ∧
      Filter.tag "kind" [" ", "new "] = .ok tags ∧ t.Composed ∧
      (Restriction.raw t.build).build
        = "(-@title:(wide screen) | (@title:%scren% @kind:\x7bnew\x7d))" ∧
      (FullText.builder.outcome draft (before ++ .restriction (.raw t.build) :: [])).2
        = (FullText.builder.outcome draft (before ++ .restriction (.tree t) :: [])).2 ∧
      Count.sentAfter (.raw t.build) [3] = Count.sentAfter (.tree t) [3] := by
  intro words near tags t draft before
  have hwords : Filter.text "title" "\t wide screen " = .ok words := rfl
  have hnear : Filter.fuzzy "title" " scren\n" = .ok near := rfl
  have htags : Filter.tag "kind" [" ", "new "] = .ok tags := rfl
  have hboth : Filter.Composed (.all [.matchAll, near, tags]) := by
    refine .all ?_
    simp only [List.forall_mem_cons, List.not_mem_nil, false_implies, implies_true, and_true]
    exact ⟨.matchAll, .fuzzy hnear, .made (.tag htags)⟩
  have ht : t.Composed := by
    refine .any ?_
    simp only [List.forall_mem_cons, List.not_mem_nil, false_implies, implies_true, and_true]
    exact ⟨.not (.made (.text hwords)), hboth⟩
  obtain ⟨-, ⟨hbuild, -⟩, ⟨-, -, hfullText, -⟩, -, hcount⟩ :=
    tree_and_fragment_are_interchangeable ht
  exact ⟨hwords, hnear, htags, ht, hbuild.trans rfl, hfullText draft before [], hcount [3]⟩

end SearchQuery.Query
