import QueryTemplate.Fill
import QueryTemplate.Lookup.Memory.Operation
import QueryTemplate.Options.Document
import QueryTemplate.Proofs.Clause.Agreement
import QueryTemplate.Proofs.Clause.Aliases
import QueryTemplate.Proofs.Clause.Echo
import QueryTemplate.Proofs.Clause.Emptied
import QueryTemplate.Proofs.Clause.FanOut
import QueryTemplate.Proofs.Clause.Positions
import QueryTemplate.Proofs.Column.AtOnce
import QueryTemplate.Proofs.Column.Grouping
import QueryTemplate.Proofs.Column.Nulls
import QueryTemplate.Proofs.Column.Totals
import QueryTemplate.Proofs.Fill.Admission
import QueryTemplate.Proofs.Filter.Reread
import QueryTemplate.Proofs.Filter.Shape
import QueryTemplate.Proofs.Grammar.Enclosed
import QueryTemplate.Proofs.Lookup.AnyOrder
import QueryTemplate.Proofs.Lookup.Hinted
import QueryTemplate.Proofs.Lookup.Mirrors
import QueryTemplate.Proofs.Lookup.Order
import QueryTemplate.Proofs.Table.Calls
import QueryTemplate.Proofs.Token.Cleaned
import QueryTemplate.Proofs.Token.Places
import QueryTemplate.Proofs.Value.Escapes
import QueryTemplate.Proofs.Value.Integers
import QueryTemplate.Proofs.Value.Pairs
import QueryTemplate.Proofs.Value.ReadBack
import QueryTemplate.Proofs.Value.Restated
