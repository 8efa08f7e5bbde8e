import PinBudget.Allocation.Session
import PinBudget.Main
import PinBudget.Service.Response
import PinBudget.Proofs.Dict
import PinBudget.Proofs.Peripheral.Validation
import PinBudget.Proofs.Allocation.Verdict
import PinBudget.Proofs.Allocation.FirstClaim
import PinBudget.Proofs.Allocation.Overlay
import PinBudget.Proofs.Allocation.Accounting
import PinBudget.Proofs.Allocation.Reordering
import PinBudget.Proofs.Analysis.Provenance
import PinBudget.Proofs.Analysis.SharedRegistry
import PinBudget.Proofs.Source.Joining
import PinBudget.Proofs.Text.Lines
import PinBudget.Proofs.Usage.Feeding
import PinBudget.Proofs.Source.Scan
import PinBudget.Proofs.Source.ArgumentList
import PinBudget.Proofs.Source.Layout
import PinBudget.Proofs.Source.Constant
import PinBudget.Proofs.Usage.Call
import PinBudget.Proofs.Usage.RoundTrip
import PinBudget.Proofs.Source.Reading
import PinBudget.Proofs.Usage.Totality
import PinBudget.Proofs.Allocation.Legible
import PinBudget.Proofs.Allocation.Completion
import PinBudget.Proofs.Source.Correspondence
import PinBudget.Proofs.Source.Cleaning
import PinBudget.Proofs.Analysis.Comments
import PinBudget.Proofs.Source.QuotedContent
import PinBudget.Proofs.Source.Assignment
import PinBudget.Proofs.Usage.Discretion
import PinBudget.Proofs.Analysis.Discretion
import PinBudget.Proofs.Analysis.Agreement
import PinBudget.Proofs.CommandLine.Verdict
import PinBudget.Proofs.Config.Section
import PinBudget.Proofs.Config.RoundTrip
import PinBudget.Proofs.Analysis.Conflicts
import PinBudget.Proofs.Allocation.Outcomes
import PinBudget.Proofs.Allocation.UnitReport
import PinBudget.Proofs.Allocation.FailureReports
import PinBudget.Proofs.Source.Operand
import PinBudget.Proofs.Usage.BareCall
import PinBudget.Proofs.Source.Blocks
import PinBudget.Proofs.Usage.Holders
import PinBudget.Proofs.Estimate.Blocking
import PinBudget.Proofs.Estimate.QuotedTexts
import PinBudget.Proofs.Pin.Designation
import PinBudget.Proofs.Analysis.Constructors
import PinBudget.Proofs.Estimate.MemoryTotals
import PinBudget.Proofs.Analysis.ConstructionCounts
import PinBudget.Proofs.Peripheral.Roles
import PinBudget.Proofs.Source.Substitution
import PinBudget.Proofs.Source.Splitting
import PinBudget.Proofs.Config.Refusal
import PinBudget.Proofs.Config.Mention
import PinBudget.Proofs.Config.Union
import PinBudget.Proofs.Number.Double
import PinBudget.Proofs.Source.Extent
import PinBudget.Proofs.Config.Typed
import PinBudget.Proofs.Estimate.MemoryCompletion
import PinBudget.Proofs.Estimate.Completion
import PinBudget.Proofs.Estimate.Estimable
import PinBudget.Proofs.Peripheral.HalfConnected
import PinBudget.Proofs.Estimate.BytecodeHeader
import PinBudget.Proofs.Text.Base64
import PinBudget.Proofs.Service.SentBytecode
import PinBudget.Proofs.Source.Brackets
import PinBudget.Proofs.Usage.ArgumentText
