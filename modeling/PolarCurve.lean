import PolarCurve.Main
import PolarCurve.Proofs.Grammar.Completeness
import PolarCurve.Proofs.Grammar.Soundness
import PolarCurve.Proofs.Grammar.Acceptance
import PolarCurve.Proofs.Location
import PolarCurve.Proofs.Token.Stretch
import PolarCurve.Proofs.Token.Scan
import PolarCurve.Proofs.Expr.Levels
import PolarCurve.Proofs.Expr.Recursion
import PolarCurve.Proofs.Grammar.Depth
import PolarCurve.Proofs.Number.Bits
import PolarCurve.Proofs.Number.Nearest
import PolarCurve.Proofs.Number.Numeral
import PolarCurve.Proofs.Token.Spelling
import PolarCurve.Proofs.Expr.Printed
import PolarCurve.Proofs.Formula.Display
import PolarCurve.Proofs.Grammar.Sentence
import PolarCurve.Proofs.Grammar.Extent
import PolarCurve.Proofs.Grammar.Fault
import PolarCurve.Proofs.Grammar.Viability
import PolarCurve.Proofs.Formula.Frame
import PolarCurve.Proofs.Token.Moved
import PolarCurve.Proofs.Grammar.Moved
import PolarCurve.Proofs.Formula.Moved
import PolarCurve.Proofs.Token.Walk
import PolarCurve.Proofs.Formula.Fault
import PolarCurve.Proofs.Formula.Value
import PolarCurve.Proofs.Emitter.History
import PolarCurve.Proofs.Token.Embedding
import PolarCurve.Proofs.Formula.Composition
import PolarCurve.Proofs.Json.Strings
import PolarCurve.Proofs.Json.Numbers
import PolarCurve.Proofs.Json.Text
import PolarCurve.Proofs.Json.Shape
import PolarCurve.Proofs.Expr.Document
import PolarCurve.Proofs.Formula.Report
import PolarCurve.Proofs.Store
import PolarCurve.Proofs.Settings.Document
import PolarCurve.Proofs.Settings.Storage
import PolarCurve.Proofs.Expr.Faults
import PolarCurve.Proofs.Text.Lines
import PolarCurve.Proofs.Formula.Message
import PolarCurve.Proofs.Formula.Place
import PolarCurve.Proofs.Diagnostic
import PolarCurve.Proofs.Formula.Accepted
import PolarCurve.Proofs.Session.Printed
import PolarCurve.Proofs.Session.History
import PolarCurve.Proofs.Formula.Reread
import PolarCurve.Proofs.Expr.Theta
import PolarCurve.Proofs.Formula.Constant
import PolarCurve.Proofs.Diagnostic.Span
import PolarCurve.Proofs.Grammar.Alignment
import PolarCurve.Proofs.Token.Spacing
import PolarCurve.Proofs.Formula.Spacing
import PolarCurve.Proofs.Expr.Node
import PolarCurve.Proofs.Expr.Preorder
import PolarCurve.Proofs.Expr.Outline
import PolarCurve.Proofs.Text.Bytes
import PolarCurve.Proofs.Expr.Census
import PolarCurve.Proofs.Grammar.Room
import PolarCurve.Proofs.Grammar.Consumption
import PolarCurve.Proofs.Location.Pieces
