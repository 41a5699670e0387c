import ByteMachine.Main
import ByteMachine.Proofs.Answer
import ByteMachine.Proofs.Source.Layout
import ByteMachine.Proofs.Source.Lexeme
import ByteMachine.Proofs.Source.Munch
import ByteMachine.Proofs.Source.Operands
import ByteMachine.Proofs.Source.Refusal
import ByteMachine.Proofs.Source.Spacing
import ByteMachine.Proofs.Source.Written
import ByteMachine.Proofs.Source.Scanning
import ByteMachine.Proofs.Source.Grammar
import ByteMachine.Proofs.Source.Column
import ByteMachine.Proofs.Source.Joining
import ByteMachine.Proofs.Source.Tiling
import ByteMachine.Proofs.Source.RegisterName
import ByteMachine.Proofs.Source.LineTokens
import ByteMachine.Proofs.Source.Relocation
import ByteMachine.Proofs.Text.Lines
import ByteMachine.Proofs.Text.Blank
import ByteMachine.Proofs.Image.BinaryText
import ByteMachine.Proofs.Image.Literal
import ByteMachine.Proofs.Image.Listing
import ByteMachine.Proofs.Image.Coverage
import ByteMachine.Proofs.Machine.Execution
import ByteMachine.Proofs.Machine.Run
import ByteMachine.Proofs.Machine.Straight
import ByteMachine.Proofs.Machine.Stack
import ByteMachine.Proofs.Machine.Fetch
import ByteMachine.Proofs.Machine.Limit
import ByteMachine.Proofs.Machine.Steps
import ByteMachine.Proofs.Machine.History
import ByteMachine.Proofs.Machine.Footprint
import ByteMachine.Proofs.Machine.Trace
import ByteMachine.Proofs.Machine.Independence
import ByteMachine.Proofs.Machine.Output
import ByteMachine.Proofs.Machine.Rules
import ByteMachine.Proofs.Machine.Failure
import ByteMachine.Proofs.Machine.Saving
import ByteMachine.Proofs.Machine.Journal
import ByteMachine.Proofs.Machine.Stores
import ByteMachine.Proofs.Machine.Loads
import ByteMachine.Proofs.Machine.Records
import ByteMachine.Proofs.Machine.Faults
import ByteMachine.Proofs.Source.Message
import ByteMachine.Proofs.Command.FileName
import ByteMachine.Proofs.Command.Filter
import ByteMachine.Proofs.Command.Session
import ByteMachine.Proofs.Command.Tracing
import ByteMachine.Proofs.Command.Pipeline
import ByteMachine.Proofs.Command.Outcome
import ByteMachine.Proofs.Source.Building
import ByteMachine.Proofs.Text.Digits
import ByteMachine.Proofs.Source.Numerals
import ByteMachine.Proofs.Source.OperationName
import ByteMachine.Proofs.Source.OperationName
