import FormRules.Failure
import FormRules.Form.Control
import FormRules.Form.Definition
import FormRules.Form.Journal
import FormRules.Form.Registry
import FormRules.Form.RuleSpec
import FormRules.Json
import FormRules.Log.Event
import FormRules.Log.Filter
import FormRules.Log.Level
import FormRules.Log.Settings
import FormRules.Main
import FormRules.Message
import FormRules.Number.Literal
import FormRules.Number.Natural
import FormRules.Number.Shortest
import FormRules.Pattern.Basic
import FormRules.Pattern.CharSet
import FormRules.Pattern.Layout
import FormRules.Pattern.Machine
import FormRules.Pattern.Machine.Build
import FormRules.Pattern.Machine.Sets
import FormRules.Pattern.Machine.Texts
import FormRules.Pattern.Matcher
import FormRules.Pattern.Reader
import FormRules.Pattern.Reader.Bracket
import FormRules.Pattern.Reader.Escape
import FormRules.Pattern.Reader.Scan
import FormRules.Proofs.Form.Freshness
import FormRules.Proofs.Form.Install
import FormRules.Proofs.Form.Lookup
import FormRules.Proofs.Form.Calls
import FormRules.Proofs.Form.Run
import FormRules.Proofs.Rule.Canonical
import FormRules.Proofs.Rule.Chain
import FormRules.Proofs.Rule.Grammar
import FormRules.Proofs.Rule.Layout
import FormRules.Proofs.Rule.Refusal
import FormRules.Proofs.Rule.Slices
import FormRules.Proofs.Text.Place
import FormRules.Proofs.Text.Trim
import FormRules.Proofs.Traversal
import FormRules.Rule.Bytewise
import FormRules.Rule.Custom
import FormRules.Rule.Error
import FormRules.Rule.Resolver
import FormRules.Rule.Standard
import FormRules.Rule.Token
import FormRules.Rule.Validator
import FormRules.Signup.Session
import FormRules.Text.Blank
import FormRules.Text.Casing
import FormRules.Text.Quoted
import FormRules.Text.Slice
import FormRules.Toml.Basic
import FormRules.Toml.Reader
import FormRules.Toml.Scalar
import FormRules.Unicode.Casing
import FormRules.Unicode.Encoding
import FormRules.Unicode.LowerCase
import FormRules.Unicode.Naming
import FormRules.Unicode.Property
import FormRules.Unicode.Ranges
import FormRules.Unicode.Tables.Age
import FormRules.Unicode.Tables.Binary
import FormRules.Unicode.Tables.Cased
import FormRules.Unicode.Tables.Category
import FormRules.Unicode.Tables.Hidden
import FormRules.Unicode.Tables.Name
import FormRules.Unicode.Tables.Script
import FormRules.Unicode.Tables.ScriptExtension
import FormRules.Unicode.Tables.Segment
import FormRules.Unicode.Tables.Word
import FormRules.Value
import FormRules.Proofs.Form.States
import FormRules.Proofs.Form.Validity
import FormRules.Proofs.Form.Patch
import FormRules.Proofs.Form.History
import FormRules.Proofs.Form.Shape
import FormRules.Proofs.Form.Recent
import FormRules.Proofs.Message
import FormRules.Proofs.Rule.Codes
import FormRules.Proofs.Form.Texts
import FormRules.Proofs.Form.Definitions
import FormRules.Proofs.Form.Alike
import FormRules.Proofs.Form.Reset
import FormRules.Proofs.Form.Order
import FormRules.Proofs.Rule.Joining
import FormRules.Proofs.Form.Brackets
import FormRules.Proofs.Rule.Vacant
import FormRules.Proofs.Form.Recorded
import FormRules.Proofs.Pattern.Matching
import FormRules.Proofs.Pattern.Language
import FormRules.Proofs.Pattern.CharSet
import FormRules.Proofs.Rule.Email
import FormRules.Proofs.Rule.Mailbox
import FormRules.Proofs.Unicode.Casing
import FormRules.Proofs.Rule.Facebook
import FormRules.Proofs.Pattern.Reader.Followed
import FormRules.Proofs.Pattern.Reader.Scan
import FormRules.Proofs.Pattern.Reader.Escape
import FormRules.Proofs.Pattern.Reader.Range
import FormRules.Proofs.Pattern.Reader.Bracket
import FormRules.Proofs.Pattern.Reader.Parts
import FormRules.Proofs.Pattern.Reader.Stray
import FormRules.Proofs.Rule.Whole
import FormRules.Proofs.Rule.Anchors
import FormRules.Proofs.Form.Shown
import FormRules.Proofs.Rule.Table
import FormRules.Proofs.Form.Agreement
import FormRules.Proofs.Number.Finite
import FormRules.Proofs.Json
import FormRules.Proofs.Number.Natural
import FormRules.Proofs.Number.Order
import FormRules.Proofs.Rule.Argument
import FormRules.Proofs.Rule.Length
import FormRules.Proofs.Rule.Bound
import FormRules.Proofs.Form.Corrections
import FormRules.Proofs.Signup.Stages
import FormRules.Proofs.Signup.Session
import FormRules.Proofs.Afresh
import FormRules.Proofs.Entries
import FormRules.Proofs.Message.History
import FormRules.Proofs.Form.Together
import FormRules.Proofs.Failure.History
import FormRules.Proofs.Text.Casing
import FormRules.Proofs.Log.Level
import FormRules.Proofs.Log.Settings
