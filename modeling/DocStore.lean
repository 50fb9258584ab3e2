import DocStore.Bytes
import DocStore.Date.Calendar
import DocStore.Date.Text
import DocStore.Double.Arithmetic
import DocStore.Double.Basic
import DocStore.Double.Read
import DocStore.Double.Shortest
import DocStore.Double.Text
import DocStore.Error
import DocStore.Field.Basic
import DocStore.Field.Cast
import DocStore.Field.Compare
import DocStore.Field.Operator
import DocStore.Field.Query
import DocStore.Field.Snapshot
import DocStore.Field.Update
import DocStore.Field.Validate
import DocStore.Gate
import DocStore.Hook
import DocStore.Json.Basic
import DocStore.Json.Number
import DocStore.Json.Text
import DocStore.Json.Value
import DocStore.Number
import DocStore.OrderedMap
import DocStore.Population
import DocStore.Proofs.Action
import DocStore.Proofs.Bytes.Encoding
import DocStore.Proofs.Bytes.Hex
import DocStore.Proofs.Date.Calendar
import DocStore.Proofs.Date.Text
import DocStore.Proofs.Date.Years
import DocStore.Proofs.Field.Absence
import DocStore.Proofs.Field.Check
import DocStore.Proofs.Field.Order
import DocStore.Proofs.Field.Range
import DocStore.Proofs.Field.Reading
import DocStore.Proofs.Field.RoundTrip
import DocStore.Proofs.Field.Setter
import DocStore.Proofs.Field.Snapshot
import DocStore.Proofs.Gate.Admission
import DocStore.Proofs.Gate.Fairness
import DocStore.Proofs.Gate.Ownership
import DocStore.Proofs.Identifier
import DocStore.Proofs.Json.Value
import DocStore.Proofs.Nesting
import DocStore.Proofs.Number.Arithmetic
import DocStore.Proofs.Number.Rounding
import DocStore.Proofs.Number.Whole
import DocStore.Proofs.OrderedMap
import DocStore.Proofs.Query.Algebra
import DocStore.Proofs.Query.Bound
import DocStore.Proofs.Query.Compile
import DocStore.Proofs.Query.Membership
import DocStore.Proofs.Query.Parse
import DocStore.Proofs.Query.Purity
import DocStore.Proofs.Query.Question
import DocStore.Proofs.Schema.Declared
import DocStore.Proofs.Schema.Integer
import DocStore.Proofs.Schema.Kept
import DocStore.Proofs.Schema.Projection
import DocStore.Proofs.Schema.Registration
import DocStore.Proofs.Schema.Setter
import DocStore.Proofs.Schema.Settled
import DocStore.Proofs.Schema.Snapshot
import DocStore.Proofs.Schema.Virtual
import DocStore.Proofs.Script
import DocStore.Proofs.Sort
import DocStore.Proofs.StableSort.Filter
import DocStore.Proofs.StableSort.Merge
import DocStore.Proofs.StableSort.Partition
import DocStore.Proofs.StableSort.Ranking
import DocStore.Proofs.StableSort.Run
import DocStore.Proofs.Store.Arrival
import DocStore.Proofs.Store.BulkUpdate
import DocStore.Proofs.Store.CursorAlgebra
import DocStore.Proofs.Store.Depopulation
import DocStore.Proofs.Store.Evaluation
import DocStore.Proofs.Store.Events
import DocStore.Proofs.Store.FailedWrite
import DocStore.Proofs.Store.Getter
import DocStore.Proofs.Store.Identity
import DocStore.Proofs.Store.Import
import DocStore.Proofs.Store.ListPopulation
import DocStore.Proofs.Store.PopulateCalls
import DocStore.Proofs.Store.Population
import DocStore.Proofs.Store.Repopulation
import DocStore.Proofs.Store.Resave
import DocStore.Proofs.Store.Run
import DocStore.Proofs.Store.Snapshot
import DocStore.Proofs.Store.Sort
import DocStore.Proofs.Store.Sound
import DocStore.Proofs.Store.Validity
import DocStore.Proofs.Store.Virtual
import DocStore.Proofs.Store.Write
import DocStore.Proofs.Update.DateShift
import DocStore.Proofs.Update.Extreme
import DocStore.Proofs.Update.Membership
import DocStore.Proofs.Update.ReadBack
import DocStore.Proofs.Update.Removal
import DocStore.Proofs.Update.Rename
import DocStore.Proofs.Value.Equality
import DocStore.Proofs.Value.Flatten
import DocStore.Proofs.Value.Leaves
import DocStore.Proofs.Value.Lens
import DocStore.Proofs.Value.Order
import DocStore.Proofs.Value.Overwrite
import DocStore.Proofs.Value.Parent
import DocStore.Proofs.Value.Path
import DocStore.Proofs.Value.Place
import DocStore.Proofs.Value.RealOrder
import DocStore.Query.Compile
import DocStore.Query.Expr
import DocStore.Regex.Age
import DocStore.Regex.Automaton
import DocStore.Regex.Boundary
import DocStore.Regex.ByteRange
import DocStore.Regex.Category
import DocStore.Regex.CharSet
import DocStore.Regex.Class
import DocStore.Regex.Folding
import DocStore.Regex.Pattern
import DocStore.Regex.Property
import DocStore.Regex.Script
import DocStore.Regex.Syntax
import DocStore.Schema.Basic
import DocStore.Schema.Callable
import DocStore.Schema.Definition
import DocStore.Script
import DocStore.Session
import DocStore.Sort
import DocStore.StableSort
import DocStore.StableSort.Merge
import DocStore.StableSort.Run
import DocStore.Store.Cursor
import DocStore.Store.Database
import DocStore.Store.LiveDocument
import DocStore.Store.Model
import DocStore.Store.Snapshot
import DocStore.Text
import DocStore.Update
import DocStore.Value.Basic
import DocStore.Value.Coerce
import DocStore.Value.Display
import DocStore.Value.Equality
import DocStore.Value.Order
import DocStore.Value.Path
