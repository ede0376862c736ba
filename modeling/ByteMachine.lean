import ByteMachine.Assembler
import ByteMachine.Assembly.Checks
import ByteMachine.Assembly.CodeByte
import ByteMachine.Assembly.Line
import ByteMachine.Assembly.Listing
import ByteMachine.Assembly.Program
import ByteMachine.Assembly.Signature
import ByteMachine.Assembly.Token
import ByteMachine.Bitdef
import ByteMachine.Cli.Arguments
import ByteMachine.Cli.Commands
import ByteMachine.Docs.Csv
import ByteMachine.Docs.LanguagePage
import ByteMachine.Export.Logisim
import ByteMachine.Fault
import ByteMachine.Instruction
import ByteMachine.Machine.Control
import ByteMachine.Machine.Encoding
import ByteMachine.Main
import ByteMachine.Microcode.Rom
import ByteMachine.Microcode.Template
import ByteMachine.Numeral
import ByteMachine.Operation.Alu
import ByteMachine.Operation.Branch
import ByteMachine.Operation.Copy
import ByteMachine.Operation.Fetch
import ByteMachine.Operation.Jump
import ByteMachine.Operation.Load
import ByteMachine.Operation.Set
import ByteMachine.Operation.Skeleton
import ByteMachine.Package.Commands
import ByteMachine.Package.Help
import ByteMachine.Package.Import
import ByteMachine.Package.Metadata
import ByteMachine.Package.Modules
import ByteMachine.Package.OptionScan
import ByteMachine.Package.Script
import ByteMachine.Text.Blank
import ByteMachine.Text.Decimal
import ByteMachine.Text.Lines
import ByteMachine.Text.Printable
import ByteMachine.Text.Quoted
import ByteMachine.Text.Slice
import ByteMachine.Text.WordChar
import ByteMachine.Word
import ByteMachine.Proofs.Except
import ByteMachine.Proofs.Forms
import ByteMachine.Proofs.Pipeline
import ByteMachine.Proofs.Labels
import ByteMachine.Proofs.Variables
import ByteMachine.Proofs.Patterns
import ByteMachine.Proofs.Rom
import ByteMachine.Proofs.Decoding
import ByteMachine.Proofs.Datapath
import ByteMachine.Proofs.Microprogram
import ByteMachine.Proofs.Execution
import ByteMachine.Proofs.Grammar
import ByteMachine.Proofs.Checks
import ByteMachine.Proofs.Faults
import ByteMachine.Proofs.RomLayout
import ByteMachine.Proofs.Counting
import ByteMachine.Proofs.Overlap
import ByteMachine.Proofs.Merging
import ByteMachine.Proofs.TwosComplement
import ByteMachine.Proofs.MemoryImage
import ByteMachine.Proofs.Extraction
import ByteMachine.Proofs.StepNumbering
import ByteMachine.Proofs.Cleaning
import ByteMachine.Proofs.Matching
import ByteMachine.Proofs.Constants
import ByteMachine.Proofs.Settled
import ByteMachine.Proofs.Summary
