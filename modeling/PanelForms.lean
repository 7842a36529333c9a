import PanelForms.Backend.Client
import PanelForms.Backend.Endpoint
import PanelForms.Backend.Request
import PanelForms.Backend.Retry
import PanelForms.Backend.Transport
import PanelForms.ComputedOptions
import PanelForms.Dict
import PanelForms.Field.Basic
import PanelForms.Field.Hint
import PanelForms.Field.NumericPattern
import PanelForms.Field.Registry
import PanelForms.Field.State
import PanelForms.Field.Validation
import PanelForms.Field.Wire
import PanelForms.FieldRef
import PanelForms.FieldRef.Json
import PanelForms.FileField
import PanelForms.Json.Basic
import PanelForms.Json.Numeral
import PanelForms.Json.Parser
import PanelForms.Json.Printer
import PanelForms.LogSettings
import PanelForms.Number.Binary64
import PanelForms.Number.Decimal
import PanelForms.Number.Power
import PanelForms.Number.Shortest
import PanelForms.Pattern.CharClass
import PanelForms.Pattern.Expr
import PanelForms.Pattern.Parser
import PanelForms.Pattern.PropertyName
import PanelForms.Poll.Chain
import PanelForms.Poll.Coordinator
import PanelForms.Poll.Outcome
import PanelForms.Poll.Poller
import PanelForms.Poll.Trace
import PanelForms.Poll.Worker
import PanelForms.Report
import PanelForms.Schema.Basic
import PanelForms.Schema.Document
import PanelForms.Schema.Error
import PanelForms.Schema.Layout
import PanelForms.Schema.Resolve
import PanelForms.Schema.Shape
import PanelForms.Session.Basic
import PanelForms.Session.Form
import PanelForms.Settings
import PanelForms.Simulation
import PanelForms.Stop
import PanelForms.Store
import PanelForms.Template
import PanelForms.Text.Alphabetic
import PanelForms.Text.Blank
import PanelForms.Text.Category
import PanelForms.Text.CodeRange
import PanelForms.Text.Hex
import PanelForms.Text.Printable
import PanelForms.Text.Quoted
import PanelForms.Text.Script
import PanelForms.Text.Substitution
import PanelForms.Proofs.Session.Change
import PanelForms.Proofs.Session.Invariant
import PanelForms.Proofs.Session.Commit
import PanelForms.Proofs.Session.Binding
import PanelForms.Proofs.Session.Operation
import PanelForms.Proofs.Session.Panels
import PanelForms.Proofs.Session.Submit
import PanelForms.Proofs.Session.EditFate
import PanelForms.Proofs.Field.WireForm
import PanelForms.Proofs.Session.Sendable
import PanelForms.Proofs.Session.Verdict
import PanelForms.Proofs.Poll.Gating
import PanelForms.Proofs.Poll.ChainUpdates
import PanelForms.Proofs.Poll.Delivery
import PanelForms.Proofs.Except
import PanelForms.Proofs.Json.Canonical
import PanelForms.Proofs.Backend.Attempts
import PanelForms.Proofs.Session.Seeding
import PanelForms.Proofs.Simulation.Leftovers
import PanelForms.Proofs.Schema.Places
import PanelForms.Proofs.Schema.References
import PanelForms.Proofs.Number.Digits
import PanelForms.Proofs.Number.Literal
import PanelForms.Proofs.Number.Nearest
import PanelForms.Proofs.Field.WireStable
import PanelForms.Proofs.Session.Reload
import PanelForms.Proofs.Store.History
import PanelForms.Proofs.Poll.TraceWindow
import PanelForms.Proofs.Poll.ChainLog
import PanelForms.Proofs.Json.Agreement
import PanelForms.Proofs.Poll.Chains
import PanelForms.Proofs.Report.Run
import PanelForms.Proofs.Report.Restart
import PanelForms.Proofs.Report.Shown
import PanelForms.Proofs.Number.Grammar
import PanelForms.Proofs.Number.Overflow
import PanelForms.Proofs.Pattern.Language
import PanelForms.Proofs.Field.NumericText
import PanelForms.Proofs.Field.Acceptance
import PanelForms.Proofs.Pattern.Matching
import PanelForms.Proofs.WorkLog
import PanelForms.Proofs.Backend.AttemptLog
import PanelForms.Proofs.Poll.Answers
import PanelForms.Proofs.Poll.WorkerLog
import PanelForms.Proofs.Poll.ChainMessages
import PanelForms.Proofs.Template.Cutting
import PanelForms.Proofs.Template.Filling
import PanelForms.Proofs.Session.BoundStates
import PanelForms.Proofs.Session.CleanCommit
import PanelForms.Proofs.Session.Rebase
import PanelForms.Proofs.Session.Opening
import PanelForms.Proofs.Session.Replacement
import PanelForms.Proofs.Backend.PathReading
import PanelForms.Proofs.Options.Reading
import PanelForms.Proofs.Options.Fetching
import PanelForms.Proofs.Field.MessageOrder
import PanelForms.Proofs.Poll.Trimming
import PanelForms.Proofs.Json.Quoting
import PanelForms.Proofs.FieldRef.Correspondence
import PanelForms.Proofs.FieldRef.FirstOccurrences
import PanelForms.Proofs.Schema.Appearances
import PanelForms.Proofs.Session.BindingOrder
import PanelForms.Proofs.Poll.ChainCalls
import PanelForms.Proofs.Poll.LiveWorker
import PanelForms.Proofs.Session.Representation
