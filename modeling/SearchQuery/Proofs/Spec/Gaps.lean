import SearchQuery.Proofs.Query.Validity
import SearchQuery.Proofs.Text.Words

/-!
# Defaults fill gaps

A specification may leave settings out, and the defaults say what those
are. `QuerySpec.fill` writes the values of the defaults into the gaps of a
specification, and `QuerySpec.omitted` lists the gaps: the settings that the
kind of the query has and that the specification is silent about.

## What is proved

- `QuerySpec.compile_fill` — a specification with its gaps filled compiles,
  under any other defaults, to what it compiled to before, errors included.
- `QuerySpec.compile_eq_of_agreeOn` — defaults that agree on the gaps give
  one result. So a setting that is written, and one that the kind does not
  have, may have any default, a value that no query accepts among them.
- `QuerySpec.exists_isSettledBy_of_compile` — where a result is a query, each
  setting that its kind has is in it with the value that is written, or else
  with that of the defaults.
-/

namespace SearchQuery

/-! ## Settings with a default -/

namespace Defaults

/-- A setting that has a default. -/
inductive Setting where
  | dialect
  | numResults
  | alpha
  | stopwords
deriving DecidableEq

/-- Both defaults have the same value for a setting. -/
def AgreeOn (defaults other : Defaults) : Setting → Prop
  | .dialect => defaults.dialect = other.dialect
  | .numResults => defaults.numResults = other.numResults
  | .alpha => defaults.alpha = other.alpha
  | .stopwords => defaults.stopwords = other.stopwords

/-- The setting, if it has no value. -/
def Setting.ifMissing {α : Type} (setting : Setting) : Option α → List Setting
  | some _ => []
  | none => [setting]

end Defaults

section Values

variable {α : Type} {setting : Defaults.Setting} {written : Option α} {defaults other : Defaults}

/-- A setting that has no value is a gap. -/
theorem Defaults.Setting.mem_ifMissing (h : written = none) : setting ∈ setting.ifMissing written := by
  rw [h]
  exact List.mem_singleton_self setting

/-- A gap that was filled is none. -/
theorem Defaults.Setting.ifMissing_or (setting : Defaults.Setting) (written : Option α) (x : α) :
    setting.ifMissing (written.or (some x)) = [] := by
  cases written <;> rfl

/-- What a gap is filled with depends on its own default only. -/
theorem or_eq_or_of_agreeOn (value : Defaults → α)
    (hvalue : defaults.AgreeOn other setting → value defaults = value other)
    (h : ∀ gap ∈ setting.ifMissing written, defaults.AgreeOn other gap) :
    written.or (some (value defaults)) = written.or (some (value other)) := by
  cases hwritten : written with
  | some x => rfl
  | none =>
    have hagree := h setting (Defaults.Setting.mem_ifMissing hwritten)
    rw [hvalue hagree]

end Values

/-! ## Results -/

namespace ResultSpec

/-- The results with their gaps filled. -/
def fill (defaults : Defaults) (spec : ResultSpec) : ResultSpec :=
  { spec with
    numResults := spec.numResults.or (some defaults.numResults)
    dialect := spec.dialect.or (some defaults.dialect) }

/-- The gaps of the results. -/
def omitted (spec : ResultSpec) : List Defaults.Setting :=
  Defaults.Setting.numResults.ifMissing spec.numResults
    ++ Defaults.Setting.dialect.ifMissing spec.dialect

/-- Filled results take nothing from other defaults. -/
theorem toResults_fill (spec : ResultSpec) (defaults other : Defaults) :
    (spec.fill defaults).toResults other = spec.toResults defaults := by
  simp only [toResults, fill, Option.getD_or, Option.getD_some]

/-- Filled results have no gaps. -/
theorem omitted_fill (spec : ResultSpec) (defaults : Defaults) :
    (spec.fill defaults).omitted = [] := by
  simp only [omitted, fill, Defaults.Setting.ifMissing_or, List.append_nil]

/-- Results are filled alike by defaults that agree on their gaps. -/
theorem fill_eq_of_agreeOn {spec : ResultSpec} {defaults other : Defaults}
    (h : ∀ gap ∈ spec.omitted, defaults.AgreeOn other gap) :
    spec.fill defaults = spec.fill other := by
  obtain ⟨hnum, hdialect⟩ := List.forall_mem_append.mp h
  unfold fill
  rw [or_eq_or_of_agreeOn Defaults.numResults id hnum,
    or_eq_or_of_agreeOn Defaults.dialect id hdialect]

end ResultSpec

/-! ## Kinds of queries -/

namespace QuerySpec

/-- The specification with its gaps filled. Whatever it says stays. -/
def fill (defaults : Defaults) : QuerySpec → QuerySpec
  | nearest spec => nearest { spec with results := spec.results.fill defaults }
  | range spec => range { spec with results := spec.results.fill defaults }
  | fullText spec => fullText { spec with results := spec.results.fill defaults }
  | listing spec => listing { spec with results := spec.results.fill defaults }
  | count spec => count { spec with dialect := spec.dialect.or (some defaults.dialect) }
  | hybrid spec => hybrid { spec with
      alpha := spec.alpha.or (some defaults.alpha)
      stopwords := spec.stopwords.or (some defaults.stopwords)
      numResults := spec.numResults.or (some defaults.numResults)
      dialect := spec.dialect.or (some defaults.dialect) }
  | multiVector spec => multiVector { spec with
      numResults := spec.numResults.or (some defaults.numResults)
      dialect := spec.dialect.or (some defaults.dialect) }

/-- The gaps of a specification: what its kind of query has a default for
and it does not say. -/
def omitted : QuerySpec → List Defaults.Setting
  | nearest spec => spec.results.omitted
  | range spec => spec.results.omitted
  | fullText spec => spec.results.omitted
  | listing spec => spec.results.omitted
  | count spec => Defaults.Setting.dialect.ifMissing spec.dialect
  | hybrid spec =>
    Defaults.Setting.alpha.ifMissing spec.alpha
      ++ Defaults.Setting.stopwords.ifMissing spec.stopwords
      ++ Defaults.Setting.numResults.ifMissing spec.numResults
      ++ Defaults.Setting.dialect.ifMissing spec.dialect
  | multiVector spec =>
    Defaults.Setting.numResults.ifMissing spec.numResults
      ++ Defaults.Setting.dialect.ifMissing spec.dialect

variable {spec : QuerySpec} {defaults other : Defaults}

/-- Filled gaps leave the defaults nothing to say. -/
theorem compile_fill (spec : QuerySpec) (defaults other : Defaults) :
    (spec.fill defaults).compile other = spec.compile defaults := by
  cases spec with
  | nearest spec => simp only [fill, compile, NearestSpec.build, ResultSpec.toResults_fill]
  | range spec => simp only [fill, compile, RangeSpec.build, ResultSpec.toResults_fill]
  | fullText spec => simp only [fill, compile, FullTextSpec.build, ResultSpec.toResults_fill]
  | listing spec => simp only [fill, compile, ListingSpec.build, ResultSpec.toResults_fill]
  | count spec => simp only [fill, compile, CountSpec.build, Option.getD_or, Option.getD_some]
  | hybrid spec => simp only [fill, compile, HybridSpec.build, Option.getD_or, Option.getD_some]
  | multiVector spec =>
    simp only [fill, compile, MultiVectorSpec.build, Option.getD_or, Option.getD_some]

/-- A filled specification has no gaps. -/
theorem omitted_fill (spec : QuerySpec) (defaults : Defaults) :
    (spec.fill defaults).omitted = [] := by
  cases spec with
  | nearest spec => exact spec.results.omitted_fill defaults
  | range spec => exact spec.results.omitted_fill defaults
  | fullText spec => exact spec.results.omitted_fill defaults
  | listing spec => exact spec.results.omitted_fill defaults
  | count | hybrid | multiVector =>
    simp only [omitted, fill, Defaults.Setting.ifMissing_or, List.append_nil]

/-- A specification is filled alike by defaults that agree on its gaps. -/
theorem fill_eq_of_agreeOn (h : ∀ gap ∈ spec.omitted, defaults.AgreeOn other gap) :
    spec.fill defaults = spec.fill other := by
  cases spec with
  | nearest spec => simp only [fill, ResultSpec.fill_eq_of_agreeOn h]
  | range spec => simp only [fill, ResultSpec.fill_eq_of_agreeOn h]
  | fullText spec => simp only [fill, ResultSpec.fill_eq_of_agreeOn h]
  | listing spec => simp only [fill, ResultSpec.fill_eq_of_agreeOn h]
  | count spec => simp only [fill, or_eq_or_of_agreeOn Defaults.dialect id h]
  | hybrid spec =>
    obtain ⟨h, hdialect⟩ := List.forall_mem_append.mp h
    obtain ⟨h, hnum⟩ := List.forall_mem_append.mp h
    obtain ⟨halpha, hstopwords⟩ := List.forall_mem_append.mp h
    simp only [fill, or_eq_or_of_agreeOn Defaults.alpha id halpha,
      or_eq_or_of_agreeOn Defaults.stopwords id hstopwords,
      or_eq_or_of_agreeOn Defaults.numResults id hnum,
      or_eq_or_of_agreeOn Defaults.dialect id hdialect]
  | multiVector spec =>
    obtain ⟨hnum, hdialect⟩ := List.forall_mem_append.mp h
    simp only [fill, or_eq_or_of_agreeOn Defaults.numResults id hnum,
      or_eq_or_of_agreeOn Defaults.dialect id hdialect]

/-- Defaults that agree on the gaps compile to one result. -/
theorem compile_eq_of_agreeOn (h : ∀ gap ∈ spec.omitted, defaults.AgreeOn other gap) :
    spec.compile defaults = spec.compile other := by
  rw [← compile_fill spec defaults other, fill_eq_of_agreeOn h, compile_fill]

/-! ## What is built -/

/-- The dialect that a specification says. -/
def dialect? : QuerySpec → Option UInt32
  | nearest spec => spec.results.dialect
  | range spec => spec.results.dialect
  | fullText spec => spec.results.dialect
  | listing spec => spec.results.dialect
  | count spec => spec.dialect
  | hybrid spec => spec.dialect
  | multiVector spec => spec.dialect

/-- The number of results that a specification says. -/
def numResults? : QuerySpec → Option UInt64
  | nearest spec => spec.results.numResults
  | range spec => spec.results.numResults
  | fullText spec => spec.results.numResults
  | listing spec => spec.results.numResults
  | count _ => none
  | hybrid spec => spec.numResults
  | multiVector spec => spec.numResults

/-- The blend that a specification says. -/
def alpha? : QuerySpec → Option Double
  | hybrid spec => spec.alpha
  | _ => none

/-- The stop words that a specification says for a blend. -/
def stopwords? : QuerySpec → Option Stopwords
  | hybrid spec => spec.stopwords
  | _ => none

/-- A query has the settings that its specification says, and the defaults
where it says nothing. -/
structure IsSettledBy (spec : QuerySpec) (defaults : Defaults) (query : Query.Built) : Prop where
  dialect_eq : query.compile.command.dialect = spec.dialect?.getD defaults.dialect
  count_eq : ¬query.countsOnly →
    query.compile.command.count = spec.numResults?.getD defaults.numResults
  alpha_eq : ∀ hybrid ∈ query.blend?, hybrid.alpha = spec.alpha?.getD defaults.alpha
  words_eq : ∀ hybrid ∈ query.blend?,
    hybrid.words = ((spec.stopwords?.getD defaults.stopwords).searched hybrid.text).map
      fun word => Escape.text (String.ofList word)

/-- The options of accepted results are in their dialect and for as many of
them, with the distance among the fields or without it. -/
theorem dialect_and_num_of_check {results : Query.Results} {byDefault : Option SortKey}
    {options : SearchOptions} (h : results.check byDefault = .ok options) (returned : Bool) :
    let sent := if returned then Query.returningDistance options else options
    sent.dialect = results.dialect ∧ sent.num = results.numResults := by
  obtain ⟨-, -, -, key, -, rfl⟩ := Query.Results.check_eq_ok.mp h
  cases returned with
  | false => exact ⟨rfl, rfl⟩
  | true =>
    rw [if_pos rfl, Query.returningDistance]
    split <;> exact ⟨rfl, rfl⟩

/-- A search is settled by its options, as it has no blend. -/
theorem isSettledBy_of_search {query : Query.Built} {options : SearchOptions}
    (hcommand : query.compile.command = .search options) (hblend : query.blend? = none)
    (hdialect : options.dialect = spec.dialect?.getD defaults.dialect)
    (hnum : ¬query.countsOnly → options.num = spec.numResults?.getD defaults.numResults) :
    spec.IsSettledBy defaults query where
  dialect_eq := by
    rw [hcommand]
    exact hdialect
  count_eq := by
    rw [hcommand]
    exact hnum
  alpha_eq hybrid h := by
    rw [hblend] at h
    cases h
  words_eq hybrid h := by
    rw [hblend] at h
    cases h

/-- A query that is built has the settings of its specification. -/
theorem isSettledBy_of_build {query : Query.Built} (h : spec.build defaults = .ok query) :
    spec.IsSettledBy defaults query := by
  cases spec
  all_goals
    obtain ⟨query, hquery, h⟩ := bind_eq_ok.mp h
    cases h
  case nearest spec =>
    obtain ⟨vector, -, hquery⟩ := bind_eq_ok.mp hquery
    obtain ⟨restriction, -, hquery⟩ := bind_eq_ok.mp hquery
    obtain ⟨-, clause, -, options, hoptions, rfl⟩ := Query.Nearest.Draft.build_eq_ok.mp hquery
    obtain ⟨hdialect, hnum⟩ := dialect_and_num_of_check hoptions spec.returnScore
    exact isSettledBy_of_search rfl rfl hdialect fun _ => hnum
  case range spec =>
    obtain ⟨vector, -, hquery⟩ := bind_eq_ok.mp hquery
    obtain ⟨restriction, -, hquery⟩ := bind_eq_ok.mp hquery
    obtain ⟨threshold, -, epsilon, -, options, hoptions, rfl⟩ :=
      Query.Range.Draft.build_eq_ok.mp hquery
    obtain ⟨hdialect, hnum⟩ := dialect_and_num_of_check hoptions true
    exact isSettledBy_of_search rfl rfl hdialect fun _ => hnum
  case fullText spec =>
    obtain ⟨restriction, -, hquery⟩ := bind_eq_ok.mp hquery
    obtain ⟨-, -, -, words, -, options, hoptions, rfl⟩ :=
      Query.FullText.Draft.build_eq_ok.mp hquery
    obtain ⟨hdialect, hnum⟩ := dialect_and_num_of_check hoptions false
    exact isSettledBy_of_search rfl rfl hdialect fun _ => hnum
  case listing spec =>
    obtain ⟨restriction, -, hquery⟩ := bind_eq_ok.mp hquery
    obtain ⟨options, hoptions, rfl⟩ := Query.Listing.Draft.build_eq_ok.mp hquery
    obtain ⟨hdialect, hnum⟩ := dialect_and_num_of_check hoptions false
    exact isSettledBy_of_search rfl rfl hdialect fun _ => hnum
  case count spec =>
    obtain ⟨restriction, -, hquery⟩ := bind_eq_ok.mp hquery
    obtain ⟨⟨⟩, -, hquery⟩ := bind_eq_ok.mp hquery
    cases hquery
    exact isSettledBy_of_search rfl rfl rfl fun hcounts => absurd trivial hcounts
  case hybrid spec =>
    obtain ⟨vector, -, hquery⟩ := bind_eq_ok.mp hquery
    obtain ⟨restriction, -, hquery⟩ := bind_eq_ok.mp hquery
    obtain ⟨-, -, -, -, -, words, hwords, rfl⟩ := Query.Hybrid.Draft.build_eq_ok.mp hquery
    refine ⟨rfl, fun _ => rfl, ?_, ?_⟩
    · rintro hybrid ⟨⟩
      rfl
    · rintro hybrid ⟨⟩
      exact (Stopwords.wordsOf_eq_ok.mp hwords).2.symm
  case multiVector spec =>
    obtain ⟨vectors, -, hquery⟩ := bind_eq_ok.mp hquery
    obtain ⟨restriction, -, hquery⟩ := bind_eq_ok.mp hquery
    obtain ⟨-, -, -, -, rfl⟩ := Query.MultiVector.Draft.build_eq_ok.mp hquery
    refine ⟨rfl, fun _ => rfl, ?_, ?_⟩
    · rintro hybrid ⟨⟩
    · rintro hybrid ⟨⟩

/-- What a specification compiles to is a query that it settles. -/
theorem exists_isSettledBy_of_compile {compiled : Compiled}
    (h : spec.compile defaults = .ok compiled) :
    ∃ query : Query.Built, query.compile = compiled ∧ spec.IsSettledBy defaults query := by
  obtain ⟨query, hbuild, hcompile⟩ := exists_build_of_compile h
  exact ⟨query, hcompile, isSettledBy_of_build hbuild⟩

/-! ## Whatever the defaults are -/

/-- **Defaults only fill gaps.** A specification compiles as if the defaults
stood in its gaps, whatever the defaults are that it is then compiled with;
and defaults that differ only outside the gaps, in what is written or in
what the kind of the query does not have, make no difference to it. -/
theorem compile_fill_and_compile_congr :
    (∀ (spec : QuerySpec) (defaults other : Defaults),
      (spec.fill defaults).compile other = spec.compile defaults ∧
        (spec.fill defaults).omitted = []) ∧
    ∀ (spec : QuerySpec) (defaults other : Defaults),
      (∀ gap ∈ spec.omitted, defaults.AgreeOn other gap) →
        spec.compile defaults = spec.compile other :=
  ⟨fun spec defaults other => ⟨compile_fill spec defaults other, omitted_fill spec defaults⟩,
    fun _ _ _ => compile_eq_of_agreeOn⟩

/-- A count takes its dialect from defaults whose other values no query
accepts, and a listing is refused for the number of results that it takes
from them. -/
theorem compile_fill_and_compile_congr_invalid :
    let valid : Defaults := { dialect := 3 }
    let invalid : Defaults :=
      { dialect := 3, numResults := 0, alpha := Binary.nan, stopwords := .custom [] }
    let count := QuerySpec.count { filter := some (.raw "@price:[1 5]") }
    let listing := QuerySpec.listing { results := { dialect := some 2 } }
    Defaults.Setting.dialect ∈ count.omitted ∧
      (∀ gap ∈ count.omitted, valid.AgreeOn invalid gap) ∧
      (∃ compiled, count.compile valid = .ok compiled ∧ count.compile invalid = .ok compiled) ∧
      ∃ cause, listing.compile invalid = .error cause ∧
        (listing.fill invalid).compile valid = .error cause := by
  intro valid invalid count listing
  have hgaps : ∀ gap ∈ count.omitted, valid.AgreeOn invalid gap := by
    intro gap hgap
    cases List.mem_singleton.mp hgap
    rfl
  have hcount : count.compile valid = count.compile invalid :=
    compile_fill_and_compile_congr.2 count valid invalid hgaps
  have hlisting : (listing.fill invalid).compile valid = listing.compile invalid :=
    (compile_fill_and_compile_congr.1 listing invalid valid).1
  refine ⟨List.mem_singleton_self _, hgaps, ⟨_, rfl, hcount.symm⟩, ?_⟩
  exact ⟨_, rfl, hlisting⟩

end QuerySpec

end SearchQuery
