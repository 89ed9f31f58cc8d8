import ConvLab.Attempt
import ConvLab.Bench.Comparison
import ConvLab.Bench.Error
import ConvLab.Bench.Folder
import ConvLab.Bench.Host
import ConvLab.Bench.Log
import ConvLab.Bench.Performance
import ConvLab.Bench.Report
import ConvLab.Bench.Runner
import ConvLab.Bench.Script
import ConvLab.Bench.Session
import ConvLab.Bench.Timer
import ConvLab.Bench.Trial
import ConvLab.Bench.Verification
import ConvLab.CommandLine
import ConvLab.Decimal.Shortest
import ConvLab.Decimal.Text
import ConvLab.Direct
import ConvLab.Json.Error
import ConvLab.Json.Layer
import ConvLab.Json.Number
import ConvLab.Json.Reader
import ConvLab.Json.Skip
import ConvLab.Json.Text
import ConvLab.Json.Writer
import ConvLab.Kernel.Basic
import ConvLab.Kernel.Candidate
import ConvLab.Kernel.Error
import ConvLab.Kernel.Kind
import ConvLab.Kernel.Reference
import ConvLab.Main
import ConvLab.Primitive.Basic
import ConvLab.Primitive.Descriptor
import ConvLab.Primitive.Error
import ConvLab.Primitive.Operator
import ConvLab.Problem
import ConvLab.Proofs.Acceptance
import ConvLab.Proofs.Agreement
import ConvLab.Proofs.Building
import ConvLab.Proofs.Cells
import ConvLab.Proofs.Checked
import ConvLab.Proofs.Comparison
import ConvLab.Proofs.Convolution
import ConvLab.Proofs.Coverage
import ConvLab.Proofs.Derivation
import ConvLab.Proofs.Descriptor
import ConvLab.Proofs.Direct
import ConvLab.Proofs.DotProduct
import ConvLab.Proofs.Entry
import ConvLab.Proofs.Exact
import ConvLab.Proofs.Execution
import ConvLab.Proofs.Flops
import ConvLab.Proofs.Grouping
import ConvLab.Proofs.Image
import ConvLab.Proofs.Kernel
import ConvLab.Proofs.Label
import ConvLab.Proofs.Layer
import ConvLab.Proofs.Layout
import ConvLab.Proofs.MatrixProduct
import ConvLab.Proofs.Numeral
import ConvLab.Proofs.Permutation
import ConvLab.Proofs.Pointwise
import ConvLab.Proofs.Problem
import ConvLab.Proofs.Quotation
import ConvLab.Proofs.Reading
import ConvLab.Proofs.ReceptiveField
import ConvLab.Proofs.Report
import ConvLab.Proofs.Run
import ConvLab.Proofs.Session
import ConvLab.Proofs.SuiteText
import ConvLab.Proofs.Taps
import ConvLab.Proofs.Timing
import ConvLab.Proofs.Trial
import ConvLab.Proofs.Unfolding
import ConvLab.Proofs.Validation
import ConvLab.Proofs.Verdict
import ConvLab.Proofs.Verification
import ConvLab.Scalar.Element
import ConvLab.Scalar.Sine
import ConvLab.Scalar.Single
import ConvLab.Shape.Basic
import ConvLab.Shape.Entry
import ConvLab.Shape.Error
import ConvLab.Suite.Basic
import ConvLab.Suite.Loader
import ConvLab.Suite.Reader
import ConvLab.Suite.Writer
import ConvLab.Tensor.Buffer
import ConvLab.Tensor.Dot
import ConvLab.Tensor.Layout
import ConvLab.Text.Printable
import ConvLab.Text.Quoted
import ConvLab.Text.Terminal
import ConvLab.Word
