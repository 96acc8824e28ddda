import CardStore.Calendar
import CardStore.Cards.Open
import CardStore.Cards.Read
import CardStore.Cards.Write
import CardStore.Database.Inspect
import CardStore.MySql.Scripted
import CardStore.MySql.Tagged
import CardStore.Pool.Line
import CardStore.Scripted
import CardStore.Proofs.Sql.Piece
import CardStore.Proofs.Sql.Render
import CardStore.Proofs.Script
import CardStore.Proofs.Sql.Clean
import CardStore.Proofs.Filter.Compile
import CardStore.Proofs.Query.Joins
import CardStore.Proofs.Query.Compile
import CardStore.Proofs.Backend
import CardStore.Proofs.Cards.Later
import CardStore.Proofs.Filter.Alike
import CardStore.Proofs.Filter.Meaning
import CardStore.Proofs.Injection
import CardStore.Proofs.Work
import CardStore.Proofs.Write.Save
import CardStore.Proofs.Cards.Write
import CardStore.Proofs.Sql.Source
import CardStore.Proofs.Sql.Statement
import CardStore.Proofs.Server
import CardStore.Proofs.Write.Store
import CardStore.Proofs.Write.Twice
import CardStore.Proofs.Query.Flat
import CardStore.Proofs.Query.Reshape
import CardStore.Proofs.Write.ReadBack
import CardStore.Proofs.Lists
import CardStore.Proofs.Query.Route
import CardStore.Proofs.Query.Shared
import CardStore.Proofs.Query.Values
import CardStore.Proofs.Query.Whole
import CardStore.Proofs.Cards.Steady
import CardStore.Proofs.Query.Destination
import CardStore.Proofs.Query.Meaning
import CardStore.Proofs.Tree.Parents
import CardStore.Proofs.Tree.Shape
import CardStore.Proofs.Tree.Descent
import CardStore.Proofs.Tree.Forest
import CardStore.Proofs.Query.Outlast
import CardStore.Proofs.Cards.Read
import CardStore.Proofs.Query.Columns
import CardStore.Proofs.Cards.Fault
import CardStore.Proofs.Pool.Traffic
import CardStore.Proofs.Pool.Books
import CardStore.Proofs.Pool.Closed
import CardStore.Proofs.Pool.Size
import CardStore.Proofs.Cards.TreeRead
import CardStore.Proofs.Cards.Loading
import CardStore.Proofs.Cards.Agreement
import CardStore.Proofs.Cards.Invalidation
import CardStore.Proofs.MySql.Connection
import CardStore.Proofs.Database.Customers
import CardStore.Proofs.MySql.Sessions
import CardStore.Proofs.MySql.Lending
import CardStore.Proofs.Sql.Part
import CardStore.Proofs.Sql.Native
import CardStore.Proofs.Sql.Prepared
import CardStore.Proofs.Write.Slots
import CardStore.Proofs.Write.Columns
import CardStore.Proofs.Sql.Deletion
import CardStore.Proofs.Sql.Like
import CardStore.Proofs.Delete.Subtree
import CardStore.Proofs.Delete.Stock
import CardStore.Proofs.Cards.Delete
import CardStore.Proofs.Filter.Objection
import CardStore.Proofs.Sql.Segment
import CardStore.Proofs.Sql.Bytes
import CardStore.Proofs.Sql.Literal
import CardStore.Proofs.Query.Patterns
import CardStore.Proofs.Query.Walk
import CardStore.Proofs.Query.Selection
import CardStore.Proofs.Cards.BestEffort
import CardStore.Proofs.Tree.Cycles
import CardStore.Proofs.Sql.Slice
import CardStore.Proofs.Sql.Page
import CardStore.Proofs.Number.Ladder
import CardStore.Proofs.Number.Rounding
import CardStore.Proofs.Number.Arithmetic
import CardStore.Proofs.Number.Nearest
import CardStore.Proofs.Number.Decimal
import CardStore.Proofs.Json.Equality
import CardStore.Proofs.Value.Equality
import CardStore.Proofs.Value.Exact
import CardStore.Proofs.MySql.Datum
import CardStore.Proofs.MySql.Received
import CardStore.Proofs.Value.Normal
import CardStore.Proofs.Record.Encoders
import CardStore.Proofs.Json.Nesting
import CardStore.Proofs.Json.Lexemes
import CardStore.Proofs.Json.ReadBack
import CardStore.Proofs.Record.ReadBack
import CardStore.Proofs.Filter.Grammar
import CardStore.Proofs.Config.Expansion
import CardStore.Proofs.Query.Grammar
import CardStore.Proofs.Tree.Grammar
import CardStore.Proofs.Url.Read
import CardStore.Proofs.Url.Redaction
import CardStore.Proofs.Pool.Search
import CardStore.Proofs.Record.History
