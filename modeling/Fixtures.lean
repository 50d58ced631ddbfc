import Fixtures.Block
import Fixtures.Catalog
import Fixtures.Catalog.Related
import Fixtures.Context
import Fixtures.Counters
import Fixtures.Data.Double
import Fixtures.Data.SortedMap
import Fixtures.Data.Value
import Fixtures.Decimal.Shortest
import Fixtures.Error
import Fixtures.Factory
import Fixtures.Factory.Description
import Fixtures.Factory.Edit
import Fixtures.Factory.Rule
import Fixtures.Factory.Template
import Fixtures.Link
import Fixtures.Link.Resolution
import Fixtures.Names.Accessor
import Fixtures.Names.Plural
import Fixtures.Proofs.Block.Accessors
import Fixtures.Proofs.Block.Agreement
import Fixtures.Proofs.Block.ClosedForm
import Fixtures.Proofs.Block.Commute
import Fixtures.Proofs.Block.Effect
import Fixtures.Proofs.Block.HasOne
import Fixtures.Proofs.Block.HashForms
import Fixtures.Proofs.Block.HashWrites
import Fixtures.Proofs.Block.Keys
import Fixtures.Proofs.Block.Names
import Fixtures.Proofs.Block.Order
import Fixtures.Proofs.Block.Pairs
import Fixtures.Proofs.Block.ReadBack
import Fixtures.Proofs.Block.Records
import Fixtures.Proofs.Block.References
import Fixtures.Proofs.Block.Rejection
import Fixtures.Proofs.Block.Relinking
import Fixtures.Proofs.Block.Reverse
import Fixtures.Proofs.Block.Sequences
import Fixtures.Proofs.Block.Singletons
import Fixtures.Proofs.Block.Splitting
import Fixtures.Proofs.Block.Step
import Fixtures.Proofs.Block.WellFormed
import Fixtures.Proofs.Context.Bindings
import Fixtures.Proofs.Context.Copies
import Fixtures.Proofs.Context.Merging
import Fixtures.Proofs.Context.Readers
import Fixtures.Proofs.Factory.Attributes
import Fixtures.Proofs.Factory.Counters
import Fixtures.Proofs.Factory.Sequences
import Fixtures.Proofs.Factory.Template
import Fixtures.Proofs.History.Declaration
import Fixtures.Proofs.History.Event
import Fixtures.Proofs.History.Lasting
import Fixtures.Proofs.History.Law
import Fixtures.Proofs.History.Ownership
import Fixtures.Proofs.History.Run
import Fixtures.Proofs.Link.Choice
import Fixtures.Proofs.Link.Resolution
import Fixtures.Proofs.Link.Reverse
import Fixtures.Proofs.Names.Forms
import Fixtures.Proofs.Names.Plural
import Fixtures.Proofs.Names.Shared
import Fixtures.Proofs.Outcome
import Fixtures.Proofs.Roster.Answers
import Fixtures.Proofs.Roster.Counted
import Fixtures.Proofs.Roster.Failures
import Fixtures.Proofs.Roster.Graft
import Fixtures.Proofs.Roster.Instance
import Fixtures.Proofs.Roster.Order
import Fixtures.Proofs.Roster.Parts
import Fixtures.Proofs.Roster.Positions
import Fixtures.Proofs.Roster.Sequences
import Fixtures.Proofs.Roster.Splitting
import Fixtures.Proofs.Roster.Step
import Fixtures.Proofs.Roster.Tally
import Fixtures.Proofs.Serial.Naming
import Fixtures.Proofs.Serial.RoundTrip
import Fixtures.Proofs.Serial.Spelling
import Fixtures.Proofs.Store.Admission
import Fixtures.Proofs.Store.Backing
import Fixtures.Proofs.Store.Constraints
import Fixtures.Proofs.Store.Following
import Fixtures.Proofs.Store.Graft
import Fixtures.Proofs.Store.HeldKeys
import Fixtures.Proofs.Store.Insertions
import Fixtures.Proofs.Store.Inverse
import Fixtures.Proofs.Store.Numbering
import Fixtures.Proofs.Store.Replacing
import Fixtures.Proofs.Trail
import Fixtures.Proofs.Unnoticed
import Fixtures.Roster
import Fixtures.Roster.Bench
import Fixtures.Run
import Fixtures.Schema
import Fixtures.Serial
import Fixtures.Settings
import Fixtures.Settings.Text
import Fixtures.Store
import Fixtures.Store.Database
import Fixtures.Store.Journal
import Fixtures.Store.Record
import Fixtures.Text.Quoted
import Fixtures.Text.Unprintable
import Fixtures.Toml.Datetime
import Fixtures.Toml.Document
import Fixtures.Toml.Item
import Fixtures.Toml.Line
import Fixtures.Toml.Number
import Fixtures.Toml.Text
import Fixtures.Workshop
