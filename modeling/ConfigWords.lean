import ConfigWords.Catalogue
import ConfigWords.Clock
import ConfigWords.CommandLine.Arguments
import ConfigWords.CommandLine.Run
import ConfigWords.Compiler
import ConfigWords.Description
import ConfigWords.Description.Access
import ConfigWords.Description.Fault
import ConfigWords.Description.Pins
import ConfigWords.Description.Reading
import ConfigWords.Description.Settings
import ConfigWords.Description.Sheet
import ConfigWords.Device
import ConfigWords.Diagnostic
import ConfigWords.Distinct
import ConfigWords.Efh
import ConfigWords.Efh.Pins
import ConfigWords.Efh.Settings
import ConfigWords.Failure
import ConfigWords.Field
import ConfigWords.InputFile
import ConfigWords.Interchange
import ConfigWords.Layout
import ConfigWords.Main
import ConfigWords.Number.Binary64
import ConfigWords.Number.Decimal
import ConfigWords.Number.Integer
import ConfigWords.OrderedMap
import ConfigWords.Ordering
import ConfigWords.Pins.Ledger
import ConfigWords.Pins.Routing
import ConfigWords.Pins.Tables
import ConfigWords.Proofs.Additions
import ConfigWords.Proofs.Bits
import ConfigWords.Proofs.Compiler
import ConfigWords.Proofs.Layout
import ConfigWords.Proofs.OrderedMap
import ConfigWords.Proofs.Outcome
import ConfigWords.Register
import ConfigWords.Registry
import ConfigWords.Render.PinSetup
import ConfigWords.Render.Pragmas
import ConfigWords.Render.Words
import ConfigWords.Scalar
import ConfigWords.Schema
import ConfigWords.Setting
import ConfigWords.Text.Blank
import ConfigWords.Text.CodeRange
import ConfigWords.Text.Digit
import ConfigWords.Text.Hex
import ConfigWords.Text.Lowercase
import ConfigWords.Text.Printable
import ConfigWords.Text.Quoted
import ConfigWords.Tree
import ConfigWords.Word
import ConfigWords.Yaml.Character
import ConfigWords.Yaml.Document
import ConfigWords.Yaml.Fault
import ConfigWords.Yaml.Node
import ConfigWords.Yaml.Plain
import ConfigWords.Yaml.Text
import ConfigWords.Yaml.Token
import ConfigWords.Proofs.Decoding
import ConfigWords.Proofs.Pins.Tables
import ConfigWords.Proofs.Description.Settings
import ConfigWords.Proofs.Description.Reading
import ConfigWords.Proofs.Diagnostics
import ConfigWords.Proofs.Render.Pragmas
import ConfigWords.Proofs.Pins.Menu
import ConfigWords.Proofs.Pins.Collecting
import ConfigWords.Proofs.Recompiling
import ConfigWords.Proofs.Description.Steps
import ConfigWords.Proofs.Description.Unreported
import ConfigWords.Proofs.Render.Words
import ConfigWords.Proofs.ChoiceOrder
import ConfigWords.Proofs.Description.Legality
import ConfigWords.Proofs.Description.Defaults
import ConfigWords.Proofs.Interchange
import ConfigWords.Proofs.Binary64
import ConfigWords.Proofs.Clock
import ConfigWords.Proofs.CommandLine.Exits
import ConfigWords.Proofs.CommandLine.Contract
import ConfigWords.Proofs.CommandLine.Session
import ConfigWords.Proofs.Efh
import ConfigWords.Proofs.InputFile
import ConfigWords.Proofs.Description.Lookups
import ConfigWords.Proofs.Pins.AssignmentOrder
import ConfigWords.Proofs.Description.Accepted
import ConfigWords.Proofs.Pins.ReadBack
import ConfigWords.Proofs.Pins.FirstClaims
import ConfigWords.Proofs.Render.PinSetup
import ConfigWords.Proofs.Registry
import ConfigWords.Proofs.Pins.Packages
import ConfigWords.Proofs.Pins.Batches
import ConfigWords.Proofs.LabelSearch
import ConfigWords.Proofs.Estimates
import ConfigWords.Proofs.Render.PragmaBlocks
import ConfigWords.Proofs.Render.PragmaLayout
import ConfigWords.Proofs.BitOrder
import ConfigWords.Proofs.Render.WordForms
import ConfigWords.Proofs.SnapshotKeys
import ConfigWords.Proofs.Description.Kept
import ConfigWords.Proofs.Text.Pattern
import ConfigWords.Proofs.Text.Runs
import ConfigWords.Proofs.LabelRuns
import ConfigWords.Proofs.LabelNumbers
import ConfigWords.Proofs.Categories
