import Verdict.Main
import Verdict.Expr.Display
import Verdict.RuleFile
import Verdict.Text.ScriptExtensions
import Verdict.Proofs.Grammar.Acceptance
import Verdict.Proofs.Print.RoundTrip
import Verdict.Proofs.Tagged.Expressions
import Verdict.Proofs.Tagged.Limits
import Verdict.Proofs.Value.Transitivity
import Verdict.Proofs.Operation.Comparison
import Verdict.Proofs.Operation.Typing
import Verdict.Proofs.Evaluation.Variables
import Verdict.Proofs.Token.Spans
import Verdict.Proofs.Grammar.Subtraction
import Verdict.Proofs.Evaluation.Heights
import Verdict.Proofs.Grammar.Composition
import Verdict.Proofs.Tagged.Stability
import Verdict.Proofs.Value.Rearrangement
import Verdict.Proofs.Value.Plain
import Verdict.Proofs.Evaluation.Sets
import Verdict.Proofs.Rules.Judgement
import Verdict.Proofs.Operation.Arithmetic
import Verdict.Proofs.Operation.Words
import Verdict.Proofs.Evaluation.Integers
import Verdict.Proofs.Evaluation.Membership
import Verdict.Proofs.Value.Representatives
import Verdict.Proofs.Grammar.Places
import Verdict.Proofs.Grammar.Refusals
import Verdict.Proofs.Environment.Paths
import Verdict.Proofs.Environment.History
import Verdict.Proofs.Value.Display
import Verdict.Proofs.Operation.Concatenation
import Verdict.Proofs.Value.Updates
import Verdict.Proofs.Command.Variables
import Verdict.Proofs.Grammar.Numbers
import Verdict.Proofs.Grammar.Progress
