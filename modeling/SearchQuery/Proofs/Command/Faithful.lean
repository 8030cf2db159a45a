import SearchQuery.Proofs.Command.Reader

/-!
# The argument list is faithful

`Compiled.args` lays a compiled query out as a list of arguments in which
keywords, counts, names and texts are all plain texts. The list is still an
encoding of the query: a field that is called `LIMIT` stands behind a count
or at a fixed place, and the reader never takes it for a keyword.

## What is proved

`read?_args_and_args_eq_iff` — the reader recovers from the argument list of
a compiled query all of it but one thing: an integer parameter and a text
parameter of the same digits are one argument (`Parameter.Alike`). So two
queries of one command have one argument list exactly when they agree up to
that.

The proof follows the list. A section that is there is one step of the
reader's loop (`readSections_section`), and one that is left out says
nothing, so each kind of section has one law whether it is there or not.
The laws are then chained in the order in which the sections are written.
-/

namespace SearchQuery

/-! ## One section -/

section Loop

variable {σ : Type} {section? : σ → String → List Argument → Option (σ × Nat)} {s next : σ}

/-- A section that is there is one step of the loop. -/
theorem readSections_section {keyword : String} (operands : List Argument) {rest : List Argument}
    (h : section? s keyword (operands ++ rest) = some (next, operands.length)) :
    readSections section? s (.text keyword :: (operands ++ rest)) =
      readSections section? next rest := by
  rw [readSections, h]
  dsimp only
  rw [List.drop_left]

/-- A keyword without operands is there or is not. -/
theorem readSections_flag {keyword : String} (next : Bool → σ) (on : Bool) (rest : List Argument)
    (hon : ∀ args, section? s keyword args = some (next true, 0)) (hoff : next false = s) :
    readSections section? s (flag on keyword ++ rest) = readSections section? (next on) rest := by
  cases on with
  | false => rw [hoff]; rfl
  | true => exact readSections_section [] (hon rest)

/-- A scorer is there or is not. -/
theorem readSections_scorerArgs (next : Option String → σ) (scorer : Option String)
    (rest : List Argument)
    (hsome : ∀ name args, section? s "SCORER" (.text name :: args) = some (next (some name), 1))
    (hnone : next none = s) :
    readSections section? s (scorerArgs scorer ++ rest) =
      readSections section? (next scorer) rest := by
  cases scorer with
  | none => rw [hnone]; rfl
  | some scorer => exact readSections_section [.text scorer] (hsome scorer rest)

/-- Operands behind their count; an empty section is left out, so it must
say nothing. -/
theorem readSections_counted {keyword : String} (operands rest : List Argument)
    (hread : section? s keyword (.ofNat operands.length :: (operands ++ rest)) =
      some (next, 1 + operands.length))
    (hempty : operands = [] → next = s) :
    readSections section? s (counted keyword operands ++ rest) =
      readSections section? next rest := by
  cases operands with
  | nil =>
    rw [hempty rfl]
    rfl
  | cons first operands =>
    have hlength : (Argument.ofNat (first :: operands).length :: first :: operands).length =
        1 + (first :: operands).length := Nat.add_comm _ _
    rw [← hlength] at hread
    exact readSections_section _ hread

end Loop

/-! ## The parameters -/

/-- Names and values of placeholders are read in pairs. -/
theorem pairs?_flatMap (params : Parameters) :
    pairs? (params.flatMap fun (name, value) => [.text name, value.toArgument]) =
      some params.shown := by
  induction params with
  | nil => rfl
  | cons param params ih =>
    rw [List.flatMap_cons]
    simp only [List.cons_append, List.nil_append, pairs?, ih, Option.map_some]
    rfl

/-- The placeholders are read up to their count, and what comes behind them is
left. -/
theorem paramsOperands?_flatMap (params : Parameters) (rest : List Argument) :
    let operands := params.flatMap fun (name, value) => [.text name, value.toArgument]
    paramsOperands? (.ofNat operands.length :: (operands ++ rest)) =
      some (params.shown, 1 + operands.length) := by
  intro operands
  rw [paramsOperands?, counted?_ofNat]
  simp only [Option.bind_eq_bind, Option.bind_some, operands, pairs?_flatMap, Option.pure_def]

/-- Only the empty list of parameters has no arguments. -/
theorem shown_eq_nil_of_flatMap {params : Parameters}
    (h : (params.flatMap fun (name, value) => [Argument.text name, value.toArgument]) = []) :
    params.shown = [] := by
  cases params with
  | nil => rfl
  | cons param params => cases h

section Closing

variable {σ : Type} {section? : σ → String → List Argument → Option (σ × Nat)} {s : σ}

/-- The parameters are gathered at once; an empty list of them is left out,
so it must say nothing. -/
theorem readSections_paramsArgs (next : List (String × Argument) → σ) (params : Parameters)
    (rest : List Argument)
    (hread : ∀ args shown n,
      paramsOperands? args = some (shown, n) → section? s "PARAMS" args = some (next shown, n))
    (hempty : next [] = s) :
    readSections section? s (params.args ++ rest) =
      readSections section? (next params.shown) rest :=
  readSections_counted _ rest (hread _ _ _ (paramsOperands?_flatMap params rest))
    fun hnil => by rw [shown_eq_nil_of_flatMap hnil, hempty]

/-- The parameters and the dialect close the list of either command. -/
theorem readSections_closing (next : List (String × Argument) → σ) (last : σ)
    (params : Parameters) (dialect : UInt32)
    (hread : ∀ args shown n,
      paramsOperands? args = some (shown, n) → section? s "PARAMS" args = some (next shown, n))
    (hempty : next [] = s)
    (hdialect : section? (next params.shown) "DIALECT" [.ofNat dialect.toNat] = some (last, 1)) :
    readSections section? s (params.args ++ [.text "DIALECT", .ofNat dialect.toNat]) =
      some last := by
  have hsection := readSections_section [.ofNat dialect.toNat] hdialect
  rw [readSections_paramsArgs next params _ hread hempty]
  exact hsection.trans (by rw [readSections])

end Closing

/-! ## The sections of a search -/

section Search

variable {g : Gathered SearchOptions}

/-- Whether contents are left out is read from its flag. -/
theorem readSections_noContent (h : g.options.noContent = false) (on : Bool)
    (rest : List Argument) :
    readSections searchSection? g (flag on "NOCONTENT" ++ rest) =
      readSections searchSection? { g with options.noContent := on } rest :=
  readSections_flag (fun on => { g with options.noContent := on }) on rest (fun _ => rfl)
    (by rw [← h])

/-- Whether scores are returned is read from its flag. -/
theorem readSections_withScores (h : g.options.withScores = false) (on : Bool)
    (rest : List Argument) :
    readSections searchSection? g (flag on "WITHSCORES" ++ rest) =
      readSections searchSection? { g with options.withScores := on } rest :=
  readSections_flag (fun on => { g with options.withScores := on }) on rest (fun _ => rfl)
    (by rw [← h])

/-- Whether the words have to stand in order is read from its flag. -/
theorem readSections_inOrder (h : g.options.inOrder = false) (on : Bool)
    (rest : List Argument) :
    readSections searchSection? g (flag on "INORDER" ++ rest) =
      readSections searchSection? { g with options.inOrder := on } rest :=
  readSections_flag (fun on => { g with options.inOrder := on }) on rest (fun _ => rfl)
    (by rw [← h])

/-- The fields to return are read up to their count. Without any, the section is
left out and they are none. -/
theorem readSections_returnFields (h : g.options.returnFields = []) (fields : List String)
    (rest : List Argument) :
    readSections searchSection? g (counted "RETURN" (fields.map .text) ++ rest) =
      readSections searchSection? { g with options.returnFields := fields } rest := by
  refine readSections_counted (fields.map .text) rest ?_ ?_
  · simp only [searchSection?, counted?_ofNat, texts?_map, Option.bind_eq_bind, Option.bind_some,
      Option.pure_def]
  · intro hempty
    rw [List.map_eq_nil_iff.mp hempty, ← h]

/-- The scorer of a search is read from its section, if there is one. -/
theorem readSections_scorer (h : g.options.scorer = none) (scorer : Option String)
    (rest : List Argument) :
    readSections searchSection? g (scorerArgs scorer ++ rest) =
      readSections searchSection? { g with options.scorer := scorer } rest :=
  readSections_scorerArgs (fun scorer => { g with options.scorer := scorer }) scorer rest
    (fun _ _ => rfl) (by rw [← h])

/-- The key that results are sorted by is read with its direction. -/
theorem readSections_sortBy (h : g.options.sortBy = none) (key : Option SortKey)
    (rest : List Argument) :
    readSections searchSection? g (sortArgs key ++ rest) =
      readSections searchSection? { g with options.sortBy := key } rest := by
  cases key with
  | none =>
    have hsame : { g with options.sortBy := none } = g := by rw [← h]
    rw [hsame]
    rfl
  | some key =>
    obtain ⟨field, ascending⟩ := key
    cases ascending with
    | true => exact readSections_section [.text field, .text "ASC"] rfl
    | false => exact readSections_section [.text field, .text "DESC"] rfl

/-- How many results to return, and from which on, is read from two numbers. -/
theorem readSections_limit (offset num : UInt64) (rest : List Argument) :
    readSections searchSection? g
        (.text "LIMIT" :: .ofNat offset.toNat :: .ofNat num.toNat :: rest) =
      readSections searchSection?
        { g with options.offset := offset, options.num := num } rest := by
  refine readSections_section [.ofNat offset.toNat, .ofNat num.toNat] ?_
  simp only [searchSection?, List.cons_append, Argument.nat?_ofNat, Option.bind_eq_bind,
    Option.bind_some, UInt64.ofNat_toNat]
  rfl

/-- The sections of a search are read back, whatever sections follow. -/
theorem readSections_searchArgs (options : SearchOptions) (rest : List Argument) :
    readSections searchSection? ⟨{}, []⟩ (options.args ++ rest) =
      readSections searchSection? ⟨{ options with dialect := defaultDialect }, []⟩ rest := by
  unfold SearchOptions.args
  simp only [List.append_assoc, List.cons_append, List.nil_append]
  rw [readSections_noContent rfl, readSections_withScores rfl, readSections_returnFields rfl,
    readSections_inOrder rfl, readSections_scorer rfl, readSections_sortBy rfl,
    readSections_limit]

end Search

/-! ## The sections of an aggregation -/

section Aggregate

variable {g : Gathered Pipeline}

/-- The scorer of a pipeline is read in the same way. -/
theorem readSections_pipelineScorer (h : g.options.scorer = none) (scorer : Option String)
    (rest : List Argument) :
    readSections aggregateSection? g (scorerArgs scorer ++ rest) =
      readSections aggregateSection? { g with options.scorer := scorer } rest :=
  readSections_scorerArgs (fun scorer => { g with options.scorer := scorer }) scorer rest
    (fun _ _ => rfl) (by rw [← h])

/-- Whether scores are added to the rows is read from its flag. -/
theorem readSections_addScores (h : g.options.addScores = false) (on : Bool)
    (rest : List Argument) :
    readSections aggregateSection? g (flag on "ADDSCORES" ++ rest) =
      readSections aggregateSection? { g with options.addScores := on } rest :=
  readSections_flag (fun on => { g with options.addScores := on }) on rest (fun _ => rfl)
    (by rw [← h])

/-- Fields to load are found behind their signs. -/
theorem mapM_loaded?_map (fields : List String) :
    (fields.map Pipeline.loadReference).mapM loaded? = some fields := by
  induction fields with
  | nil => rfl
  | cons field fields ih =>
    rw [List.map_cons, List.mapM_cons, loaded?_loadReference, ih]
    rfl

/-- The fields to load are read up to their count. -/
theorem readSections_load (h : g.options.load = []) (fields : List String)
    (rest : List Argument) :
    readSections aggregateSection? g
        (counted "LOAD" (fields.map fun field => .text (Pipeline.loadReference field)) ++ rest) =
      readSections aggregateSection? { g with options.load := fields } rest := by
  have hmap : (fields.map fun field => Argument.text (Pipeline.loadReference field)) =
      (fields.map Pipeline.loadReference).map .text := by
    rw [List.map_map]
    rfl
  rw [hmap]
  refine readSections_counted ((fields.map Pipeline.loadReference).map .text) rest ?_ ?_
  · simp only [aggregateSection?, counted?_ofNat, texts?_map, mapM_loaded?_map,
      Option.bind_eq_bind, Option.bind_some, Option.pure_def]
  · intro hempty
    rw [List.map_eq_nil_iff.mp (List.map_eq_nil_iff.mp hempty), ← h]

/-- The computed fields are gathered in their order. -/
theorem readSections_apply (steps : List ApplyStep) (rest : List Argument) :
    readSections aggregateSection? g (steps.flatMap Pipeline.applyArgs ++ rest) =
      readSections aggregateSection? { g with options.apply := g.options.apply ++ steps } rest := by
  induction steps generalizing g with
  | nil => rw [List.append_nil]; rfl
  | cons step steps ih =>
    have hstep : readSections aggregateSection? g
        (Pipeline.applyArgs step ++ (steps.flatMap Pipeline.applyArgs ++ rest)) =
        readSections aggregateSection? { g with options.apply := g.options.apply ++ [step] }
          (steps.flatMap Pipeline.applyArgs ++ rest) :=
      readSections_section [.text step.expression, .text "AS", .text step.name] rfl
    rw [List.flatMap_cons, List.append_assoc, hstep, ih, List.append_assoc]
    rfl

/-- The field that a pipeline ranks by is read from its section. -/
theorem readSections_ranking (field : String) (rest : List Argument) :
    readSections aggregateSection? g
        (.text "SORTBY" :: .ofNat 2 :: .text ("@" ++ field) :: .text "DESC" :: rest) =
      readSections aggregateSection? { g with options.sortBy := field } rest := by
  have hcounted := counted?_ofNat [.text ("@" ++ field), .text "DESC"] rest
  refine readSections_section [.ofNat 2, .text ("@" ++ field), .text "DESC"] ?_
  simp only [List.length_cons, List.length_nil, Nat.zero_add, Nat.reduceAdd, List.cons_append,
    List.nil_append] at hcounted
  simp only [aggregateSection?, List.cons_append, List.nil_append, hcounted, Option.bind_eq_bind,
    Option.bind_some, unsigned?_append, List.length_cons, List.length_nil, Nat.zero_add,
    Nat.reduceAdd, Option.pure_def]

/-- The number of rows is read from its section. -/
theorem readSections_max (max : UInt64) (rest : List Argument) :
    readSections aggregateSection? g (.text "MAX" :: .ofNat max.toNat :: rest) =
      readSections aggregateSection? { g with options.max := max } rest := by
  refine readSections_section [.ofNat max.toNat] ?_
  simp only [aggregateSection?, List.cons_append, Argument.nat?_ofNat, Option.bind_eq_bind,
    Option.bind_some, UInt64.ofNat_toNat]
  rfl

/-- The sections of an aggregation are read back, whatever sections
follow. -/
theorem readSections_pipelineArgs (pipeline : Pipeline) (rest : List Argument) :
    readSections aggregateSection? ⟨Outline.blankPipeline, []⟩ (pipeline.args ++ rest) =
      readSections aggregateSection? ⟨{ pipeline with dialect := 0 }, []⟩ rest := by
  unfold Pipeline.args
  simp only [List.append_assoc, List.cons_append, List.nil_append]
  rw [readSections_pipelineScorer rfl, readSections_addScores rfl, readSections_load rfl,
    readSections_apply, readSections_ranking, readSections_max]
  rfl

end Aggregate

/-! ## The whole list -/

/-- A search ends in its placeholders, if it has any, and its dialect. -/
theorem readSections_searchClosing (options : SearchOptions) (params : Parameters)
    (dialect : UInt32) :
    readSections searchSection? ⟨options, []⟩
        (params.args ++ [.text "DIALECT", .ofNat dialect.toNat]) =
      some ⟨{ options with dialect }, params.shown⟩ := by
  refine readSections_closing (fun shown => ⟨options, shown⟩) _ params dialect ?_ rfl ?_
  · intro args shown n h
    simp only [searchSection?, h, Option.bind_eq_bind, Option.bind_some, Option.pure_def]
  · simp only [searchSection?, Argument.nat?_ofNat, Option.bind_eq_bind, Option.bind_some,
      UInt32.ofNat_toNat, Option.pure_def]

/-- An aggregation ends in the same two sections. -/
theorem readSections_aggregateClosing (pipeline : Pipeline) (params : Parameters)
    (dialect : UInt32) :
    readSections aggregateSection? ⟨pipeline, []⟩
        (params.args ++ [.text "DIALECT", .ofNat dialect.toNat]) =
      some ⟨{ pipeline with dialect }, params.shown⟩ := by
  refine readSections_closing (fun shown => ⟨pipeline, shown⟩) _ params dialect ?_ rfl ?_
  · intro args shown n h
    simp only [aggregateSection?, h, Option.bind_eq_bind, Option.bind_some, Option.pure_def]
  · simp only [aggregateSection?, Argument.nat?_ofNat, Option.bind_eq_bind, Option.bind_some,
      UInt32.ofNat_toNat, Option.pure_def]

/-- The reader recovers what a compiled query says. -/
theorem read?_args (index : String) (c : Compiled) :
    Outline.read? c.command.name (c.args index) = some (Outline.ofCompiled index c) := by
  obtain ⟨query, params, command⟩ := c
  cases command with
  | search options =>
    have hread : readSections searchSection? ⟨{}, []⟩ (options.args ++ (params.args ++
        [.text "DIALECT", .ofNat options.dialect.toNat])) = some ⟨options, params.shown⟩ := by
      rw [readSections_searchArgs, readSections_searchClosing]
    simp only [Compiled.args, Command.args, Command.dialect, Command.name, List.append_assoc,
      List.cons_append, Outline.read?, hread, Option.map_some, Outline.ofCompiled]
  | aggregate pipeline =>
    have hread : readSections aggregateSection? ⟨Outline.blankPipeline, []⟩
        (pipeline.args ++ (params.args ++ [.text "DIALECT", .ofNat pipeline.dialect.toNat])) =
        some ⟨pipeline, params.shown⟩ := by
      rw [readSections_pipelineArgs, readSections_aggregateClosing]
    simp only [Compiled.args, Command.args, Command.dialect, Command.name, List.append_assoc,
      List.cons_append, Outline.read?, hread, Option.map_some, Outline.ofCompiled]

/-! ## Queries of one argument list -/

namespace Parameter

/-- Two values that are one argument: they are the same, or one is an
integer and the other the text of its digits. -/
inductive Alike : Parameter → Parameter → Prop
  | same (value : Parameter) : Alike value value
  | digits (n : Int) : Alike (int n) (text (toString n))
  | digitsOf (n : Int) : Alike (text (toString n)) (int n)

/-- Only values that are alike are one argument. -/
theorem toArgument_eq_iff {p q : Parameter} : p.toArgument = q.toArgument ↔ Alike p q := by
  constructor
  · intro h
    cases p with
    | int n =>
      cases q with
      | int m =>
        obtain rfl : n = m := Int.repr_injective (Argument.text.inj h)
        exact .same _
      | text value =>
        obtain rfl : toString n = value := Argument.text.inj h
        exact .digits n
      | bytes value => cases h
    | text value =>
      cases q with
      | int m =>
        obtain rfl : value = toString m := Argument.text.inj h
        exact .digitsOf m
      | text value' =>
        cases h
        exact .same _
      | bytes value' => cases h
    | bytes value =>
      cases q with
      | int m => cases h
      | text value' => cases h
      | bytes value' =>
        cases h
        exact .same _
  · intro h
    cases h <;> rfl

end Parameter

/-- Parameters of the same names whose values are alike. -/
def Parameters.Alike (params params' : Parameters) : Prop :=
  List.Forall₂ (fun p q => p.1 = q.1 ∧ Parameter.Alike p.2 q.2) params params'

/-- Placeholders are shown alike when they are alike: an integer and its digits
are written in the same way. -/
theorem Parameters.shown_eq_iff {params params' : Parameters} :
    params.shown = params'.shown ↔ params.Alike params' := by
  unfold shown Alike
  rw [← List.forall₂_eq_eq_eq, List.forall₂_map_left_iff, List.forall₂_map_right_iff]
  simp only [Prod.mk.injEq, Parameter.toArgument_eq_iff]

/-- The argument list is made of what is said of a query and of nothing
else. -/
theorem args_eq_of_ofCompiled_eq {index index' : String} {c c' : Compiled}
    (h : Outline.ofCompiled index c = Outline.ofCompiled index' c') :
    c.args index = c'.args index' := by
  obtain ⟨query, params, command⟩ := c
  obtain ⟨query', params', command'⟩ := c'
  have hargs : ∀ params : Parameters, (params.flatMap fun (name, value) =>
      [Argument.text name, value.toArgument]) =
      params.shown.flatMap fun (name, value) => [Argument.text name, value] := by
    intro params
    rw [Parameters.shown, List.flatMap_map]
  simp only [Outline.ofCompiled, Outline.mk.injEq] at h
  obtain ⟨rfl, rfl, rfl, hshown⟩ := h
  simp only [Compiled.args, Parameters.args, hargs, hshown]

/-- **The argument list is faithful.** Told the name of the command, the
reader recovers from the argument list of a compiled query the index, the
query string, every option and the parameters in their order, each by name
and argument. So two queries of one command have one argument list exactly
when they agree on all of that, their parameters up to an integer and the
text of its digits. -/
theorem read?_args_and_args_eq_iff :
    (∀ (index : String) (c : Compiled),
      Outline.read? c.command.name (c.args index) =
        some ⟨index, c.query, c.command, c.params.map fun p => (p.1, p.2.toArgument)⟩) ∧
    ∀ (index index' : String) (c c' : Compiled),
      (c.command.name = c'.command.name ∧ c.args index = c'.args index') ↔
        (index = index' ∧ c.query = c'.query ∧ c.command = c'.command ∧
          c.params.Alike c'.params) := by
  refine ⟨read?_args, fun index index' c c' => ⟨?_, ?_⟩⟩
  · rintro ⟨hname, hargs⟩
    have hread := read?_args index c
    rw [hname, hargs, read?_args, Option.some.injEq] at hread
    simp only [Outline.ofCompiled, Outline.mk.injEq] at hread
    obtain ⟨rfl, hquery, hcommand, hshown⟩ := hread
    exact ⟨rfl, hquery.symm, hcommand.symm, Parameters.shown_eq_iff.mp hshown.symm⟩
  · rintro ⟨rfl, hquery, hcommand, halike⟩
    have hsaid : Outline.ofCompiled index c = Outline.ofCompiled index c' := by
      simp only [Outline.ofCompiled, hquery, hcommand, Parameters.shown_eq_iff.mpr halike]
    exact ⟨by rw [hcommand], args_eq_of_ofCompiled_eq hsaid⟩

end SearchQuery
