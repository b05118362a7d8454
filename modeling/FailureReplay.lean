import FailureReplay.Main
import FailureReplay.Proofs.Command.Generate
import FailureReplay.Proofs.Harness.Decoders
import FailureReplay.Proofs.Source.Description
import FailureReplay.Proofs.Source.KeptSignature
import FailureReplay.Proofs.Source.KeptText
import FailureReplay.Proofs.Source.Stability
import FailureReplay.Proofs.Synthesis.Generation
import FailureReplay.Session
import FailureReplay.Proofs.Payload
import FailureReplay.Proofs.Payload.Division
import FailureReplay.Proofs.TreeArguments
import FailureReplay.Proofs.Signature
import FailureReplay.Proofs.Json.Grammar
import FailureReplay.Proofs.Json.Reader
import FailureReplay.Proofs.Json.Record
import FailureReplay.Proofs.Json.Writer
import FailureReplay.Proofs.Report.Decode
import FailureReplay.Proofs.Synthesis.Lines
import FailureReplay.Proofs.Literal.TreeFormat
import FailureReplay.Proofs.TextArguments
import FailureReplay.Proofs.TextArrays
import FailureReplay.Proofs.Report.ActualPayload
import FailureReplay.Proofs.Report.Partition
import FailureReplay.Proofs.Argument.Warnings
import FailureReplay.Proofs.DeclaredType.Spelling
import FailureReplay.Proofs.Source.HeaderType
import FailureReplay.Proofs.Source.Units
import FailureReplay.Proofs.DeclaredType.Arrays
import FailureReplay.Proofs.Literal.ListFormat
import FailureReplay.Proofs.Literal.TreeLinks
import FailureReplay.Proofs.Command.Normalize
import FailureReplay.Proofs.Source.Depth
import FailureReplay.Proofs.Literal.ReadBack
