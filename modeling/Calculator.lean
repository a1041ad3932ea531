import Calculator.Session
import Calculator.Deadline
import Calculator.Evaluation.Outcome
import Calculator.Main
import Calculator.Binary64.Shortest
import Calculator.Text.Quoted
import Calculator.Proofs.Interruption
import Calculator.Proofs.Kind
import Calculator.Proofs.ExactArithmetic
import Calculator.Proofs.Outcome
import Calculator.Proofs.Scope
import Calculator.Proofs.Visit
import Calculator.Proofs.Rendering
import Calculator.Proofs.Reading
import Calculator.Proofs.Literal
import Calculator.Proofs.Substitution
import Calculator.Proofs.Juxtaposition
import Calculator.Proofs.Session
import Calculator.Proofs.Exactness
import Calculator.Proofs.Availability
import Calculator.Proofs.Encoding
import Calculator.Proofs.Modes
import Calculator.Proofs.Power
import Calculator.Proofs.Command
import Calculator.Proofs.RoundedText
import Calculator.Proofs.Logarithm
import Calculator.Proofs.Monomial
import Calculator.Proofs.PollCount
import Calculator.Proofs.Presentation
import Calculator.Proofs.Conversion
import Calculator.Proofs.Unbound
import Calculator.Proofs.Inverse
import Calculator.Proofs.Spelling
import Calculator.Proofs.Wrapper
import Calculator.Proofs.DebugForm
import Calculator.Proofs.ExactText
import Calculator.Proofs.Settings
