import Disassembly.Text.Blank
import Disassembly.Text.Decimal
import Disassembly.Text.Alphanumeric
import Disassembly.Text.LowerCase
import Disassembly.Text.Quoted
import Disassembly.Text.Padding
import Disassembly.Text.Lines
import Disassembly.Text.Hexadecimal
import Disassembly.Text.Utf8
import Disassembly.AddressIndex
import Disassembly.Architecture
import Disassembly.Operand
import Disassembly.Tracker
import Disassembly.Listing
import Disassembly.Markup.Encoding
import Disassembly.Markup.Event
import Disassembly.Markup.Token
import Disassembly.Markup.Namespace
import Disassembly.Markup.Document
import Disassembly.Reference.Bundled
import Disassembly.Reference.Requests
import Disassembly.Workbench
import Disassembly.CommandLine
import Disassembly.Main
import Disassembly.Proofs.Line.Margin
import Disassembly.Proofs.Text.Hexadecimal
import Disassembly.Proofs.Text.Words
import Disassembly.Proofs.Text.Classes
import Disassembly.Proofs.Instruction.Splitting
import Disassembly.Proofs.Line.Grammar
import Disassembly.Proofs.Instruction.RoundTrip
import Disassembly.Proofs.Labels.Numbering
import Disassembly.Proofs.Operand.Target
import Disassembly.Proofs.Reference.Store
import Disassembly.Proofs.Reference.Loading
import Disassembly.Proofs.Listing.Labelling
import Disassembly.Proofs.Markup.Tree
import Disassembly.Proofs.Reference.Closings
import Disassembly.Proofs.Reference.Elements
import Disassembly.Proofs.Reference.Loop
import Disassembly.Proofs.Reference.Detaching
import Disassembly.Proofs.Text.Lines
import Disassembly.Proofs.Text.Utf8
import Disassembly.Proofs.Markup.Written
import Disassembly.Proofs.Reference.Bundled
import Disassembly.Proofs.Listing.Rereading
import Disassembly.Proofs.Listing.Composition
import Disassembly.Proofs.Listing.Printing
import Disassembly.Proofs.Tracker.History
import Disassembly.Proofs.Workbench.Step
import Disassembly.Proofs.Workbench.Trackers
import Disassembly.Proofs.Workbench.Binding
import Disassembly.Proofs.CommandLine.Output
import Disassembly.Proofs.CommandLine.Settings
import Disassembly.Proofs.CommandLine.Inputs
import Disassembly.Proofs.Instruction.Parts
import Disassembly.Proofs.Operand.Categories
import Disassembly.Proofs.Operand.RegisterName
import Disassembly.Proofs.Operand.NameProjection
import Disassembly.Proofs.Operand.Spelling
import Disassembly.Proofs.Labels.Formatting
import Disassembly.Proofs.Reference.Lookup
import Disassembly.Proofs.Listing.Describing
