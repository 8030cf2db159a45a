import SearchQuery.Main
import SearchQuery.Proofs.Command.Faithful
import SearchQuery.Proofs.Filter.Containment
import SearchQuery.Proofs.Filter.Meaning
import SearchQuery.Proofs.Query.Clauses
import SearchQuery.Proofs.Query.Validity
import SearchQuery.Proofs.Spec.RoundTrip
import SearchQuery.Proofs.Spec.Gaps
import SearchQuery.Proofs.Binary.Integer
import SearchQuery.Proofs.Payload.Lossless
import SearchQuery.Proofs.Syntax.Pieces
import SearchQuery.Proofs.Query.Positions
import SearchQuery.Proofs.Query.Readable
import SearchQuery.Proofs.Spec.Declared
import SearchQuery.Proofs.Syntax.Unescape
import SearchQuery.Proofs.Filter.Comparison
import SearchQuery.Proofs.Filter.TagSet
import SearchQuery.Proofs.Filter.QuotedPattern
import SearchQuery.Proofs.Query.Numbers
import SearchQuery.Proofs.Decimal.Rounded
import SearchQuery.Proofs.Binary.Overflow
import SearchQuery.Proofs.Decimal.Places
import SearchQuery.Proofs.Query.Blend
import SearchQuery.Proofs.Embedding.History
import SearchQuery.Proofs.Embedding.Finite
import SearchQuery.Proofs.Filter.Place
import SearchQuery.Proofs.Text.Tokens
import SearchQuery.Proofs.Filter.Checked
import SearchQuery.Proofs.Filter.Wildcards
import SearchQuery.Proofs.Query.Overriding
import SearchQuery.Proofs.Sort
import SearchQuery.Proofs.Query.Weights
import SearchQuery.Proofs.CommandLine.Words
import SearchQuery.Proofs.Query.Interchange
