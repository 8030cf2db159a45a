import SearchQuery.Query.Settings

/-!
# Listing and counting

A listing returns the documents that pass a restriction; a count returns
how many there are. A count asks for no documents at all, so the only
setting it has is the dialect, which is checked when it is set.
-/

namespace SearchQuery.Query

/-- A query for the documents that pass a restriction. -/
structure Listing where
  restriction : Restriction
  options : SearchOptions

namespace Listing

/-- The settings of a query, unchecked. -/
structure Draft where
  restriction : Restriction
  results : Results := {}

namespace Draft

/-- The draft with one setting changed. -/
def set (draft : Draft) (setting : ResultSetting) : Draft :=
  { draft with results := draft.results.set setting }

/-- The query of a draft, once its settings are checked. -/
def build (draft : Draft) : Except Invalid Listing := do
  let options ← draft.results.check none
  return { restriction := draft.restriction, options }

end Draft

/-- The query, ready to be sent. -/
def compile (query : Listing) : Compiled :=
  ⟨query.restriction.build, [], .search query.options⟩

end Listing

/-- A query for the number of documents that pass a restriction. -/
structure Count where
  restriction : Restriction
  dialect : UInt32 := defaultDialect

namespace Count

/-- The query in another dialect. -/
def withDialect (dialect : UInt32) (query : Count) : Except Invalid Count := do
  requireDialect dialect
  return { query with dialect }

/-- The query, ready to be sent. -/
def compile (query : Count) : Compiled :=
  ⟨query.restriction.build, [],
    .search { noContent := true, offset := 0, num := 0, dialect := query.dialect }⟩

end Count

end SearchQuery.Query
