import FilterSql.Main
import FilterSql.Trace
import FilterSql.Proofs.Alphabet
import FilterSql.Proofs.Query.WellFormed
import FilterSql.Proofs.Statement.Sections
import FilterSql.Proofs.Statement.Characters
import FilterSql.Proofs.Query.Accepted
import FilterSql.Proofs.Statement.Bindings
import FilterSql.Proofs.Statement.Grammar
import FilterSql.Proofs.Query.Erasure
import FilterSql.Proofs.Text.Cuts
import FilterSql.Proofs.Noninterference
import FilterSql.Proofs.Clause.Reader
import FilterSql.Proofs.Clause.Meaning
import FilterSql.Proofs.Query.Parts
import FilterSql.Proofs.Window.Rows
import FilterSql.Proofs.Query.Refusals
import FilterSql.Proofs.Params.Grouping
import FilterSql.Proofs.Query.Writing
import FilterSql.Proofs.Query.RoundTrip
import FilterSql.Proofs.Query.Ignorable
import FilterSql.Proofs.Query.LastValues
import FilterSql.Proofs.Query.Guarantees
import FilterSql.Proofs.Statement.Marks
import FilterSql.Proofs.Window.Ordering
import FilterSql.Proofs.Text.Utf8
import FilterSql.Proofs.Form.Writing
import FilterSql.Proofs.Trace.Accounting
import FilterSql.Proofs.Statement.LineBreaks
import FilterSql.Proofs.Statement.Ascii
import FilterSql.Proofs.Console.Reports
import FilterSql.Proofs.Text.Padding
import FilterSql.Proofs.Query.Additions
import FilterSql.Proofs.Query.GroupTerms
import FilterSql.Proofs.Query.Wrapping
import FilterSql.Proofs.Query.SelectList
import FilterSql.Proofs.Checks.Phrases
import FilterSql.Proofs.Checks.Patterns
import FilterSql.Proofs.Params.History
import FilterSql.Proofs.Dialect.Quoting
import FilterSql.Proofs.Text.Unquoting
import FilterSql.Proofs.Compiled.JsonReader
import FilterSql.Proofs.Compiled.ListingReader
import FilterSql.Proofs.Console.Output
import FilterSql.Proofs.Window.Counts
import FilterSql.Proofs.Query.ListOperands
import FilterSql.Proofs.Text.Terms
import FilterSql.Proofs.Statement.Programs
