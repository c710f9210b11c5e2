import Herbarium.Main
import Herbarium.Proofs.Database.RowNumbers
import Herbarium.Proofs.Database.Statements
import Herbarium.Proofs.Specimen.Construction
import Herbarium.Proofs.Store.Table
import Herbarium.Proofs.Store.Records
import Herbarium.Proofs.Store.Runs
import Herbarium.Proofs.Store.Unique
import Herbarium.Proofs.Filter.Grammar
import Herbarium.Proofs.Filter.Parsing
import Herbarium.Proofs.Text.Joined
import Herbarium.Proofs.Clause.Columns
import Herbarium.Proofs.Clause.Placeholders
import Herbarium.Proofs.Clause.Layouts
import Herbarium.Proofs.Database.Conditions
import Herbarium.Proofs.Store.Selection
import Herbarium.Proofs.Store.Deletion
import Herbarium.Proofs.Store.Conjunction
import Herbarium.Proofs.Binary64.Exact
import Herbarium.Proofs.Store.Fields
import Herbarium.Proofs.Store.Lengths
import Herbarium.Proofs.Filter.Comparisons
import Herbarium.Proofs.Text.Bytes
import Herbarium.Proofs.Store.Species
import Herbarium.Proofs.Disk.Opening
import Herbarium.Proofs.Store.Among
import Herbarium.Proofs.Specimen.Loading
import Herbarium.Proofs.Http.Requests
import Herbarium.Proofs.Http.Ledger
import Herbarium.Proofs.Http.Sync
import Herbarium.Proofs.Http.Parameters
import Herbarium.Proofs.Binary64.Rounding
import Herbarium.Proofs.Decimal.Shortest
import Herbarium.Proofs.Specimen.Editing
import Herbarium.Database.Session
import Herbarium.Proofs.Database.Sessions
import Herbarium.Proofs.Database.Frame
import Herbarium.Proofs.Json.Numbers
import Herbarium.Proofs.Json.Strings
import Herbarium.Proofs.Json.Reading
import Herbarium.Proofs.Specimen.Export
import Herbarium.Proofs.Store.ValueLists
import Herbarium.Proofs.Store.Complements
import Herbarium.Proofs.Specimen.Readings
import Herbarium.Proofs.Specimen.Orders
import Herbarium.Proofs.Sql.Creation
import Herbarium.Proofs.Database.Schemas
import Herbarium.Proofs.Database.Duplicates
import Herbarium.Proofs.Database.Tables
import Herbarium.Proofs.Binary64.Integers
import Herbarium.Proofs.Database.IntegerColumns
import Herbarium.Proofs.Database.IntegerFilters
import Herbarium.Proofs.Summary.Ranks
import Herbarium.Proofs.Summary.Statistics
import Herbarium.Proofs.Filter.Rendering
import Herbarium.Proofs.Binary64.Averages
import Herbarium.Proofs.Summary.Medians
import Herbarium.Proofs.Value.Decoding
import Herbarium.Proofs.Json.Scaling
