import Formulary.Main
import Formulary.Rule.Bench
import Formulary.Command.Execution
import Formulary.Proofs.Registry
import Formulary.Proofs.Propagation.Course
import Formulary.Proofs.Propagation.Step
import Formulary.Proofs.Propagation.Termination
import Formulary.Proofs.Propagation.Chain
import Formulary.Proofs.Propagation.Cause
import Formulary.Proofs.Propagation.Acyclic
import Formulary.Proofs.Propagation.Abreast
import Formulary.Proofs.Propagation.Replay
import Formulary.Proofs.Reachable
import Formulary.Proofs.Kin
import Formulary.Proofs.Propagation.Notification
import Formulary.Proofs.Validator
import Formulary.Proofs.Explanation
import Formulary.Proofs.Propagation.Influence
import Formulary.Proofs.Transcript
import Formulary.Proofs.Rule.Policy
import Formulary.Proofs.Setup
import Formulary.Proofs.Validity
import Formulary.Proofs.Propagation.Forward
import Formulary.Proofs.Propagation.Isolation
import Formulary.Proofs.Accounting
import Formulary.Proofs.Lifetime
import Formulary.Proofs.Rule.Notation
import Formulary.Proofs.Copying
import Formulary.Proofs.Number
import Formulary.Proofs.Propagation.Correction
import Formulary.Proofs.AgeRange
import Formulary.Proofs.Text.Pieces
import Formulary.Proofs.Traversal
import Formulary.Proofs.Propagation.Origin
import Formulary.Proofs.Rule.Grammar
import Formulary.Proofs.LengthRule.Bracket
import Formulary.Proofs.LengthRule.Encoding
import Formulary.Proofs.LengthRule.Offsets
import Formulary.Proofs.LengthRule.Leftmost
import Formulary.Proofs.Loading
import Formulary.Proofs.OrderedMap
import Formulary.Proofs.Propagation.Restoration
import Formulary.Proofs.Document
import Formulary.Proofs.Assignment
