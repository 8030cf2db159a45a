import SearchQuery.Proofs.Filter.Containment
import SearchQuery.Proofs.Query.Placeholders
import SearchQuery.Proofs.Syntax.Pieces

/-!
# Positions of a query over several vectors

A vector goes by its position in four places that are written by different
loops: its clause names the placeholder of its payload and yields a distance,
a step makes the distance a score, and the last step sums the scores. The
payloads themselves are kept in the order of their names, in which the
eleventh comes before the third.

`linesUp_of_build` says that the four agree for any number of vectors. What
the query string is made of is known whatever the fields are. How it is read
is known where no field has a delimiter of its own, and what it has behind a
`$` where none has a `$` or a backslash.
-/

namespace SearchQuery

open Syntax

/-! ## Steps -/

/-- The fields of a row that a step reads. -/
def ApplyStep.reads (step : ApplyStep) : List String := marked '@' step.expression.toList

/-- Each step reads fields that are known before it and defines one that is
not. -/
def WellScoped : List String → List ApplyStep → Prop
  | _, [] => True
  | known, step :: steps =>
    (∀ field ∈ step.reads, field ∈ known) ∧ step.name ∉ known ∧
      WellScoped (known ++ [step.name]) steps

theorem wellScoped_append {known : List String} {steps more : List ApplyStep} :
    WellScoped known (steps ++ more) ↔
      WellScoped known steps ∧ WellScoped (known ++ steps.map ApplyStep.name) more := by
  induction steps generalizing known with
  | nil => simp [WellScoped]
  | cons step steps ih => simp [WellScoped, ih, and_assoc]

/-- Steps that read nothing of one another only have to differ in their
names. -/
theorem wellScoped_of_reads {base known : List String} (hbase : base ⊆ known)
    {steps : List ApplyStep} (hreads : ∀ step ∈ steps, step.reads ⊆ base)
    (hnodup : (known ++ steps.map ApplyStep.name).Nodup) : WellScoped known steps := by
  induction steps generalizing known with
  | nil => trivial
  | cons step steps ih =>
    obtain ⟨hstep, hsteps⟩ := List.forall_mem_cons.mp hreads
    refine ⟨fun field hfield => hbase (hstep hfield), ?_, ?_⟩
    · intro hknown
      exact (List.nodup_append.mp hnodup).2.2 _ hknown _ List.mem_cons_self rfl
    · refine ih (fun field hfield => List.mem_append_left _ (hbase hfield)) hsteps ?_
      simpa only [List.map_cons, List.append_assoc, List.singleton_append] using hnodup

/-- One reference behind a text without signs. -/
theorem marked_reference {before : String} (h : ∀ c ∈ before.toList, IsPlain '@' c) {name : String}
    (hname : Query.IsName name) : marked '@' (before ++ ("@" ++ name)).toList = [name] := by
  rw [String.toList_append, String.toList_append, marked_append_of_isPlain h]
  exact marked_name (by decide) (by decide) hname

namespace Formula

/-- A term reads the score of its position. -/
theorem marked_term (position : Nat) (weight : Double) :
    marked '@' (term "@" position weight).toList = [Score.name position] := by
  have hplain : ∀ c ∈ (weight.fixed weightPlaces ++ " * ").toList, IsPlain '@' c := by
    have htimes : IsSeparator '@' " * ".toList := by decide
    intro c hc
    rw [String.toList_append, List.mem_append] at hc
    rcases hc with hc | hc
    · have hfigure := Double.isFigure_of_mem_fixed hc
      exact ⟨ne_of_isFigure hfigure (by decide), ne_of_isFigure hfigure (by decide)⟩
    · exact htimes.2.2 c hc
  have hname : Query.IsName (Score.name position) := Query.isName_numbered (by decide) position
  rw [term, String.append_assoc]
  exact marked_reference hplain hname

/-- The terms read the scores one after the other. -/
theorem flatMap_marked_terms (position : Nat) (weights : List Double) :
    ((terms "@" position weights).map String.toList).flatMap (marked '@') =
      (List.range' position weights.length).map Score.name := by
  induction weights generalizing position with
  | nil => rfl
  | cons weight weights ih =>
    rw [terms, List.map_cons, List.flatMap_cons, marked_term, ih, List.length_cons,
      List.range'_succ, List.map_cons, List.singleton_append]

/-- The sum reads every score once, in order. -/
theorem marked_expression (formula : Formula) :
    marked '@' formula.expression.toList =
      (List.range formula.weights.length).map Score.name := by
  have hplus : IsSeparator '@' " + ".toList := by decide
  rw [expression, render, String.toList_intercalate, marked_intercalate hplus,
    flatMap_marked_terms, List.range_eq_range']

end Formula

namespace Query.MultiVector

/-! ## The query string -/

/-- The clause of the vector at a position. -/
def clauseText (vector : Embedding) (position : Nat) : String :=
  "@" ++ Escape.field vector.field ++ ":[VECTOR_RANGE 2.0 $vector_" ++ toString position
    ++ "]=>\x7b$YIELD_DISTANCE_AS: distance_" ++ toString position ++ "\x7d"

/-- The clauses are numbered from zero, each by the position of its vector. -/
theorem clausesFrom_zero (vectors : List Embedding) :
    clausesFrom 0 vectors = vectors.mapIdx fun i vector => clauseText vector i := by
  have hclause (position : Nat) (vector : Embedding) :
      clause position vector = clauseText vector position := by
    simp only [clause, clauseText, anyDistance, vectorName, distanceName, String.append_assoc]
    rfl
  have hloop := eq_mapIdx_of_cons (f := clausesFrom) (g := clause) (fun _ => rfl)
    (fun _ _ _ => rfl) 0 vectors
  simpa only [Nat.zero_add, hclause] using hloop

/-- A clause is one closed piece of the query, whatever the position is. -/
theorem isAtom_clauseText {vector : Embedding}
    (h : isClosed ("@" ++ Escape.field vector.field).toList = true) (position : Nat) :
    isAtom (clauseText vector position).toList = true := by
  have hname : IsName ("vector_" ++ toString position) := isName_vectorName position
  have hdigits : ∀ c ∈ (toString position).toList, isNameChar c = true := by
    intro c hc
    exact hname c (String.toList_append ▸ List.mem_append_right _ hc)
  have hregion : Filter.IsRegionText
      ("VECTOR_RANGE 2.0 $vector_".toList ++ (toString position).toList) := by
    refine Filter.isRegionText_append (by decide) fun c hc => ?_
    exact isPlain_of_isNameChar (by decide) (hdigits c hc)
  -- braces nest, so their inside is scanned and not passed over like that of brackets
  have hopen : Scan.run {} "=>\x7b$YIELD_DISTANCE_AS: distance_".toList
      = some { due := ['}'] } := by decide
  have hinside : Scan.run { due := ['}'] } (toString position).toList
      = some { due := ['}'] } :=
    Scan.run_of_forall fun c hc => Scan.step_of_not_isSpecial (Scan.settled_inside (by decide))
      (isSpecial_of_isNameChar (hdigits c hc)) (.inl (List.cons_ne_nil _ _))
  have hclose : Scan.run { due := ['}'] } "\x7d".toList = some {} := by decide
  have hattribute : Scan.run {} ("=>\x7b$YIELD_DISTANCE_AS: distance_".toList
      ++ ((toString position).toList ++ "\x7d".toList)) = some {} := by
    rw [Scan.run_append, hopen, Option.bind_some, Scan.run_append, hinside, Option.bind_some,
      hclose]
  have hatom := isAtom_append (Filter.isAtom_region (Filter.isAtom_ref h) hregion) hattribute
  simp only [clauseText, String.toList_append, List.append_assoc, List.cons_append,
    List.nil_append] at hatom ⊢
  exact hatom

/-- The clauses of the vectors, in order. -/
def clauseTexts (vectors : List Embedding) : List String :=
  vectors.mapIdx fun i vector => clauseText vector i

/-- What comes behind the clauses and closes their parenthesis. -/
def filterText (restriction : Restriction) : String :=
  if restriction.isMatchAll then "" else ") AND (" ++ restriction.build ++ ")"

/-- Where there is a vector there is a clause. -/
theorem clauseTexts_ne_nil {vectors : List Embedding} (h : vectors ≠ []) :
    (clauseTexts vectors).map String.toList ≠ [] := by
  intro hnil
  have hlength := congrArg List.length hnil
  simp only [clauseTexts, List.length_map, List.length_mapIdx, List.length_nil,
    List.length_eq_zero_iff] at hlength
  exact h hlength

variable {query : MultiVector}

/-- The query string is the clauses as alternatives, in parentheses if they are
restricted. -/
theorem queryString_eq (query : MultiVector) :
    query.queryString =
      if query.restriction.isMatchAll then " | ".intercalate (clauseTexts query.vectors)
      else "(" ++ " | ".intercalate (clauseTexts query.vectors)
        ++ ") AND (" ++ query.restriction.build ++ ")" := by
  rw [queryString, clauses, clausesFrom_zero]
  rfl

/-- The clauses are the alternatives that a reader finds. -/
theorem alternativesOf_queryString (hne : query.vectors ≠ [])
    (h : ∀ vector ∈ query.vectors, isClosed ("@" ++ Escape.field vector.field).toList = true) :
    alternativesOf query.queryString.toList =
      ⟨(clauseTexts query.vectors).map String.toList, (filterText query.restriction).toList⟩ := by
  have hatoms : ∀ cs ∈ (clauseTexts query.vectors).map String.toList, isAtom cs = true := by
    intro cs hcs
    obtain ⟨text, htext, rfl⟩ := List.mem_map.mp hcs
    obtain ⟨i, hi, rfl⟩ := List.mem_mapIdx.mp htext
    exact isAtom_clauseText (h _ (List.getElem_mem hi)) i
  have hjoined : (" | ".intercalate (clauseTexts query.vectors)).toList =
      separator.intercalate ((clauseTexts query.vectors).map String.toList) :=
    String.toList_intercalate
  rw [queryString_eq, filterText]
  split
  · rw [hjoined, alternativesOf_intercalate (clauseTexts_ne_nil hne) hatoms]
    rfl
  · have hread := alternativesOf_parenthesized (clauseTexts_ne_nil hne) hatoms
      (" AND (" ++ query.restriction.build ++ ")").toList
    simp only [String.toList_append, List.append_assoc, hjoined] at hread ⊢
    exact hread

/-! ## The pipeline -/

/-- The field of a distance has a name that can be referred to. -/
theorem isName_distanceName (position : Nat) : IsName (distanceName position) :=
  isName_numbered (by decide) position

/-- A score is computed from the distance of its own position. -/
theorem reads_scoreStep (position : Nat) : (scoreStep position).reads = [distanceName position] := by
  have hbefore : IsSeparator '@' "(2 - ".toList := by decide
  have hafter : IsBoundary '@' ")/2".toList := by decide
  have hsplit : (scoreStep position).expression =
      "(2 - " ++ ("@" ++ distanceName position) ++ ")/2" := by
    simp only [scoreStep, String.append_assoc]
    rfl
  rw [ApplyStep.reads, hsplit, String.toList_append, marked_append hafter,
    marked_reference hbefore.2.2 (isName_distanceName position)]
  rfl

/-- The last step. -/
def sumStep (query : MultiVector) : ApplyStep := ⟨query.formula.expression, combinedScoreAlias⟩

/-- The sum is computed from every score, in order. -/
theorem reads_sumStep (query : MultiVector) :
    query.sumStep.reads = (List.range query.vectors.length).map Score.name := by
  rw [ApplyStep.reads, sumStep, Formula.marked_expression, formula, List.length_map]

/-- A pipeline computes the scores and then their sum. -/
theorem apply_pipeline (query : MultiVector) : query.pipeline.apply =
    (List.range query.vectors.length).map scoreStep ++ [query.sumStep] := rfl

/-- The fields of the distances. -/
def distances (count : Nat) : List String := (List.range count).map distanceName

/-- The fields of the scores. -/
def scores (count : Nat) : List String := (List.range count).map Score.name

/-- A name of a position has the initial of its stem. -/
theorem head?_toList_of_mem (stem : String) {initial : Char}
    (h : stem.toList.head? = some initial) {count : Nat} {name : String}
    (hname : name ∈ (List.range count).map fun i => stem ++ toString i) :
    name.toList.head? = some initial := by
  obtain ⟨i, -, rfl⟩ := List.mem_map.mp hname
  rw [String.toList_append, List.head?_append, h]
  rfl

/-- Distances, scores and the sum are fields of different names, told apart by
their initials. -/
theorem nodup_fields (count : Nat) :
    (distances count ++ (scores count ++ [combinedScoreAlias])).Nodup := by
  have hdistance {name : String} (h : name ∈ distances count) : name.toList.head? = some 'd' :=
    head?_toList_of_mem "distance_" rfl h
  have hscore {name : String} (h : name ∈ scores count) : name.toList.head? = some 's' :=
    head?_toList_of_mem "score_" rfl h
  have hsum : combinedScoreAlias.toList.head? = some 'c' := rfl
  have hdistances : (distances count).Nodup := List.nodup_range.map (numbered_injective "distance_")
  have hscores : (scores count).Nodup := List.nodup_range.map (numbered_injective "score_")
  have hcomputed : (scores count ++ [combinedScoreAlias]).Nodup := by
    refine List.nodup_append.mpr ⟨hscores, List.nodup_singleton _, ?_⟩
    rintro name hname other hother rfl
    cases List.mem_singleton.mp hother
    cases (hscore hname).symm.trans hsum
  refine List.nodup_append.mpr ⟨hdistances, hcomputed, ?_⟩
  rintro name hname other hother rfl
  rcases List.mem_append.mp hother with hother | hother
  · cases (hdistance hname).symm.trans (hscore hother)
  · cases List.mem_singleton.mp hother
    cases (hdistance hname).symm.trans hsum

/-- Distances are yielded before the first step, and each step goes on from
what there is. -/
theorem wellScoped_pipeline (query : MultiVector) :
    WellScoped (distances query.vectors.length) query.pipeline.apply := by
  have hnames : ((List.range query.vectors.length).map scoreStep).map ApplyStep.name =
      scores query.vectors.length := by
    rw [List.map_map]
    rfl
  -- the scores read only distances; the sum comes last and reads only scores
  have hnodup := nodup_fields query.vectors.length
  rw [← List.append_assoc] at hnodup
  obtain ⟨hsteps, -, hfresh⟩ := List.nodup_append.mp hnodup
  rw [apply_pipeline]
  refine wellScoped_append.mpr ⟨wellScoped_of_reads (List.Subset.refl _) ?_ ?_, ?_, ?_, trivial⟩
  · intro step hstep
    obtain ⟨i, hi, rfl⟩ := List.mem_map.mp hstep
    intro field hfield
    rw [reads_scoreStep, List.mem_singleton] at hfield
    exact List.mem_map.mpr ⟨i, hi, hfield.symm⟩
  · rwa [hnames]
  · intro field hfield
    rw [reads_sumStep] at hfield
    rw [hnames]
    exact List.mem_append_right _ hfield
  · rw [hnames]
    exact fun hmem => hfresh _ hmem _ (List.mem_singleton.mpr rfl) rfl

/-- The sum has the weight of each vector before the score of its position. -/
theorem expression_formula (query : MultiVector) :
    query.formula.expression = " + ".intercalate (query.vectors.mapIdx fun i vector =>
      vector.weight.fixed 2 ++ " * @score_" ++ toString i) := by
  have hterm (position : Nat) (vector : Embedding) : Formula.term "@" position vector.weight =
      vector.weight.fixed 2 ++ " * @score_" ++ toString position := by
    simp only [Formula.term, Formula.weightPlaces, Score.name, String.append_assoc]
    rfl
  -- the weights are taken from the vectors first, and only then numbered
  have hloop := eq_mapIdx_of_cons
    (f := fun position vectors => Formula.terms "@" position (vectors.map Embedding.weight))
    (g := fun position vector => Formula.term "@" position vector.weight)
    (fun _ => rfl) (fun _ _ _ => rfl) 0 query.vectors
  simp only [Nat.zero_add, hterm] at hloop
  rw [Formula.expression, Formula.render, formula, hloop]

/-! ## Any number of vectors -/

/-- The query string yields a distance as a field. -/
def Yields (queryString field : String) : Prop :=
  ("\x7b$YIELD_DISTANCE_AS: " ++ field ++ "\x7d").toList <:+: queryString.toList

/-- What is joined stands in the whole. -/
theorem isInfix_intercalate {α : Type} {between part : List α} {parts : List (List α)}
    (h : part ∈ parts) : part <:+: between.intercalate parts := by
  induction parts with
  | nil => cases h
  | cons first parts ih =>
    cases parts with
    | nil =>
      cases List.mem_singleton.mp h
      exact ⟨[], [], by rw [List.intercalate_singleton, List.nil_append, List.append_nil]⟩
    | cons next parts =>
      rw [List.intercalate_cons_cons]
      rcases List.mem_cons.mp h with rfl | h
      · rw [List.append_assoc]
        exact (List.prefix_append _ _).isInfix
      · exact (ih h).trans (List.suffix_append _ _).isInfix

/-- The query string yields the distance of each position. -/
theorem yields_distance {i : Nat} (h : i < query.vectors.length) :
    Yields query.queryString (distanceName i) := by
  have hmem : clauseText query.vectors[i] i ∈ clauseTexts query.vectors :=
    List.mem_mapIdx.mpr ⟨i, h, rfl⟩
  have hclause : ("\x7b$YIELD_DISTANCE_AS: " ++ distanceName i ++ "\x7d").toList <:+:
      (clauseText query.vectors[i] i).toList := by
    refine List.IsSuffix.isInfix ⟨("@" ++ Escape.field query.vectors[i].field
      ++ ":[VECTOR_RANGE 2.0 $vector_" ++ toString i ++ "]=>").toList, ?_⟩
    rw [← String.toList_append, clauseText, distanceName]
    simp only [String.append_assoc]
    rfl
  have hjoined : (clauseText query.vectors[i] i).toList <:+:
      (" | ".intercalate (clauseTexts query.vectors)).toList := by
    rw [String.toList_intercalate]
    exact isInfix_intercalate (List.mem_map.mpr ⟨_, hmem, rfl⟩)
  refine (hclause.trans hjoined).trans ?_
  rw [queryString_eq]
  split
  · exact List.infix_rfl
  · simp only [String.toList_append, List.append_assoc]
    exact List.infix_append' _ _ _

/-- What the parts of a query over several vectors have to do with one
another. -/
structure LinesUp (query : MultiVector) : Prop where
  length_params : query.params.length = query.vectors.length
  lookup_params : ∀ (i : Nat) (vector : Embedding), query.vectors[i]? = some vector →
    query.params.lookup ("vector_" ++ toString i) = some (.bytes vector.payload)
  queryString_eq : query.queryString =
    if query.restriction.isMatchAll then " | ".intercalate (clauseTexts query.vectors)
    else "(" ++ " | ".intercalate (clauseTexts query.vectors)
      ++ ") AND (" ++ query.restriction.build ++ ")"
  alternativesOf_queryString :
    (∀ vector ∈ query.vectors, isClosed ("@" ++ Escape.field vector.field).toList = true) →
      alternativesOf query.queryString.toList =
        ⟨(clauseTexts query.vectors).map String.toList, (filterText query.restriction).toList⟩
  /-- Each placeholder of a vector is followed by the attribute that yields
  a distance. Any other is the filter's. -/
  signed_queryString : (∀ vector ∈ query.vectors, IsPlainField vector.field) →
    signed query.queryString =
      ((List.range query.vectors.length).flatMap fun i =>
        ["vector_" ++ toString i, "YIELD_DISTANCE_AS"])
      ++ if query.restriction.isMatchAll then [] else signed query.restriction.build
  length_apply : query.pipeline.apply.length = query.vectors.length + 1
  score_step : ∀ i < query.vectors.length, ∃ step, query.pipeline.apply[i]? = some step ∧
    step.reads = ["distance_" ++ toString i] ∧ step.name = "score_" ++ toString i
  sum_step : ∃ step, query.pipeline.apply[query.vectors.length]? = some step ∧
    step.expression = " + ".intercalate (query.vectors.mapIdx fun i vector =>
      vector.weight.fixed 2 ++ " * @score_" ++ toString i) ∧
    step.reads = scores query.vectors.length ∧ step.name = "combined_score"
  yields_distance : ∀ i < query.vectors.length,
    Yields query.queryString ("distance_" ++ toString i)
  wellScoped : WellScoped (distances query.vectors.length) query.pipeline.apply
  sortBy_eq : query.pipeline.apply.getLast?.map ApplyStep.name = some query.pipeline.sortBy
  /-- The payloads are sent in the order of their names, each right behind
  its own. -/
  args_eq : ∀ index, ∃ order : List (Embedding × Nat), order.Perm query.vectors.zipIdx ∧
    (order.map fun p => "vector_" ++ toString p.2).Pairwise (· < ·) ∧
    query.compile.args index =
      .text index :: .text query.queryString :: query.pipeline.args
        ++ (.text "PARAMS" :: .ofNat (2 * query.vectors.length) ::
          order.flatMap fun p => [.text ("vector_" ++ toString p.2), .bytes p.1.payload])
        ++ [.text "DIALECT", .ofNat query.dialect.toNat]

/-- The payloads are numbered from zero, like the clauses. -/
theorem payloadsFrom_zero (vectors : List Embedding) : payloadsFrom 0 vectors =
    vectors.zipIdx.map fun p => (vectorName p.2, .bytes p.1.payload) := by
  rw [payloadsFrom_eq, List.mapIdx_eq_zipIdx_map]
  simp only [Nat.zero_add]

/-- Clauses, placeholders, steps and arguments of a query over some vectors line
up. -/
theorem linesUp (hne : query.vectors ≠ []) : LinesUp query := by
  have hnodup := nodup_names_payloadsFrom 0 query.vectors
  constructor
  case length_params =>
    rw [params, (Parameters.ofList_perm hnodup).length_eq, payloadsFrom_eq, List.length_mapIdx]
  case lookup_params =>
    intro i vector hvector
    obtain ⟨hi, rfl⟩ := List.getElem?_eq_some_iff.mp hvector
    have hmem : (vectorName i, Parameter.bytes query.vectors[i].payload) ∈
        payloadsFrom 0 query.vectors := by
      rw [payloadsFrom_eq, List.mem_mapIdx]
      exact ⟨i, hi, by rw [Nat.zero_add]⟩
    have hnames := ((Parameters.ofList_perm hnodup).map Prod.fst).nodup_iff.mpr hnodup
    exact lookup_of_mem hnames ((Parameters.mem_ofList hnodup).mpr hmem)
  case queryString_eq => exact queryString_eq query
  case alternativesOf_queryString => exact alternativesOf_queryString hne
  case signed_queryString =>
    intro hfields
    rw [signed_queryString, signed_clauses, signed_clausesFrom hfields, List.range_eq_range']
    rfl
  case length_apply => simp [apply_pipeline]
  case score_step =>
    intro i hi
    refine ⟨scoreStep i, ?_, reads_scoreStep i, rfl⟩
    rw [apply_pipeline, List.getElem?_append_left (by simpa using hi), List.getElem?_map,
      List.getElem?_range hi]
    rfl
  case sum_step =>
    exact ⟨query.sumStep, by simp [apply_pipeline], expression_formula query,
      reads_sumStep query, rfl⟩
  case yields_distance => exact fun i hi => yields_distance hi
  case wellScoped => exact wellScoped_pipeline query
  case sortBy_eq =>
    rw [apply_pipeline, List.getLast?_concat]
    rfl
  case args_eq =>
    intro index
    have hpairs : query.vectors.zipIdx ≠ [] := by simpa using hne
    rw [payloadsFrom_zero] at hnodup
    obtain ⟨order, hperm, hordered, hargs⟩ := Parameters.exists_args_eq _ hnodup hpairs
    refine ⟨order, hperm, hordered, ?_⟩
    rw [List.length_zipIdx, ← payloadsFrom_zero] at hargs
    rw [Compiled.args, compile, params, hargs]
    rfl

/-- **Vectors, distances, scores and payloads line up** in a query that was
accepted, however many vectors it has. -/
theorem linesUp_of_build {draft : Draft} {query : MultiVector} (h : draft.build = .ok query) :
    query.vectors = draft.vectors ∧ query.restriction = draft.restriction ∧ LinesUp query := by
  obtain ⟨hnonempty, -, -, -, rfl⟩ := Draft.build_eq_ok.mp h
  exact ⟨rfl, rfl, linesUp (by simpa using hnonempty)⟩

/-- Eleven vectors of two types on one field, of which the last is sent as
the third. -/
theorem linesUp_of_build_eleven :
    let single : Embedding := {
      values := [Binary.ofInt 1]
      field := "$.embedding"
      dtype := .float32
      weight := Embedding.defaultWeight
      payload := [0, 0, 128, 63]
    }
    let half : Embedding := { single with dtype := .float16, payload := [0, 60] }
    let draft : Draft := { vectors := List.replicate 10 single ++ [half] }
    ∃ query, draft.build = .ok query ∧ LinesUp query ∧
      query.params.names.take 4 = ["vector_0", "vector_1", "vector_10", "vector_2"] ∧
      query.params.lookup "vector_10" = some (.bytes [0, 60]) := by
  intro single half draft
  have hlines := @linesUp_of_build draft _ rfl
  refine ⟨_, rfl, hlines.2.2, ?_, ?_⟩
  · decide
  · exact hlines.2.2.lookup_params 10 half rfl

end Query.MultiVector

end SearchQuery
