import FieldRules.Address
import FieldRules.Builtin.Catalog
import FieldRules.Builtin.Expression
import FieldRules.Builtin.Forms
import FieldRules.Builtin.Verdict
import FieldRules.Calendar.Moment
import FieldRules.Calendar.Shape
import FieldRules.Config
import FieldRules.Decimal.Nearest
import FieldRules.Decimal.Numeral
import FieldRules.Decimal.Shortest
import FieldRules.Dict
import FieldRules.Directive
import FieldRules.Engine.Context
import FieldRules.Engine.Registry
import FieldRules.Engine.Run
import FieldRules.Engine.Session
import FieldRules.Engine.Stock
import FieldRules.Engine.Validator
import FieldRules.Error
import FieldRules.InTurn
import FieldRules.Json.Basic
import FieldRules.Json.Reader
import FieldRules.Json.Source
import FieldRules.Json.Writer
import FieldRules.Message.Bag
import FieldRules.Message.English
import FieldRules.Message.Phrasebook
import FieldRules.Message.Template
import FieldRules.Message.Wording
import FieldRules.Pattern.Automaton
import FieldRules.Pattern.Basic
import FieldRules.Pattern.Bytes
import FieldRules.Pattern.CharSet
import FieldRules.Pattern.Escape
import FieldRules.Pattern.Flags
import FieldRules.Pattern.Look
import FieldRules.Pattern.Plan
import FieldRules.Pattern.Reader
import FieldRules.Pattern.Term
import FieldRules.Pattern.WordTree
import FieldRules.Reading
import FieldRules.Size
import FieldRules.Specification
import FieldRules.Subject
import FieldRules.Text.Blank
import FieldRules.Text.Hex
import FieldRules.Text.Pieces
import FieldRules.Unicode.Age
import FieldRules.Unicode.CaseFold
import FieldRules.Unicode.Category
import FieldRules.Unicode.CodeSet
import FieldRules.Unicode.Derived
import FieldRules.Unicode.Digit
import FieldRules.Unicode.Property
import FieldRules.Unicode.Script
import FieldRules.Unicode.ScriptExtension
import FieldRules.Unicode.Segment
import FieldRules.Unicode.Table
import FieldRules.Unicode.Trait
import FieldRules.Proofs.Run.History
import FieldRules.Proofs.Run.Verdict
import FieldRules.Proofs.Session.Move
import FieldRules.Proofs.Session.Operate
import FieldRules.Proofs.Session.Alone
import FieldRules.Proofs.Plan
import FieldRules.Proofs.Session.Order
import FieldRules.Proofs.Session.Faithful
import FieldRules.Proofs.Session.Schedule
import FieldRules.Proofs.Session.Stroke
import FieldRules.Proofs.Run.Failure
import FieldRules.Proofs.Bag
import FieldRules.Proofs.Check
import FieldRules.Proofs.Session.Bag
import FieldRules.Proofs.Session.Ledger
import FieldRules.Proofs.Session.Recent
import FieldRules.Proofs.Reference
import FieldRules.Proofs.Session.Agreement
import FieldRules.Proofs.Session.Parts
import FieldRules.Proofs.Session.Voice
import FieldRules.Proofs.Session.Source
import FieldRules.Proofs.Absent
import FieldRules.Proofs.Pattern.Covers
import FieldRules.Proofs.Pattern.Language
import FieldRules.Proofs.Decimal.Finite
import FieldRules.Proofs.Integer
import FieldRules.Proofs.Run.Account
import FieldRules.Proofs.Refusal
import FieldRules.Proofs.Session.Settled
import FieldRules.Proofs.Session.Reply
import FieldRules.Proofs.Session.Handles
import FieldRules.Proofs.Session.Callbacks
import FieldRules.Proofs.Session.Refused
import FieldRules.Proofs.Rearranged
import FieldRules.Proofs.Session.Onlooker
import FieldRules.Proofs.Session.Told
import FieldRules.Proofs.Session.Isolation
import FieldRules.Proofs.Session.Lone
import FieldRules.Proofs.Session.Future
import FieldRules.Proofs.Json.Rearranged
import FieldRules.Proofs.Watched
import FieldRules.Proofs.Presence
import FieldRules.Proofs.Session.Presence
import FieldRules.Proofs.Message.Lookup
import FieldRules.Proofs.Leeway
import FieldRules.Proofs.Akin
import FieldRules.Proofs.Session.Akin
import FieldRules.Proofs.Session.Lockstep
import FieldRules.Proofs.Session.Settings
import FieldRules.Proofs.Session.Moments
import FieldRules.Proofs.Session.Withdrawn
import FieldRules.Proofs.Text.Trimmed
import FieldRules.Proofs.Directive
import FieldRules.Proofs.Dict
import FieldRules.Proofs.Specification
import FieldRules.Proofs.Registry
import FieldRules.Proofs.Run.Late
import FieldRules.Proofs.Message.Precedence
import FieldRules.Proofs.Message.Registered
import FieldRules.Proofs.Argument
import FieldRules.Proofs.Message.Placeholder
import FieldRules.Proofs.Calendar.Day
import FieldRules.Proofs.Calendar.Shape
import FieldRules.Proofs.Calendar.Writing
import FieldRules.Proofs.Calendar.Instant
import FieldRules.Proofs.Url
import FieldRules.Proofs.Form
import FieldRules.Proofs.Timeless
import FieldRules.Proofs.Replaced
import FieldRules.Proofs.Measure
import FieldRules.Proofs.Session.Measured
import FieldRules.Proofs.Between
import FieldRules.Proofs.Json.Written
import FieldRules.Proofs.RawRules
import FieldRules.Proofs.Expression
import FieldRules.Proofs.Calendar.Compared
import FieldRules.Proofs.Message.Custom
import FieldRules.Proofs.Message.Logged
import FieldRules.Proofs.Context
import FieldRules.Proofs.Session.Context
import FieldRules.Proofs.Message.Bundled
