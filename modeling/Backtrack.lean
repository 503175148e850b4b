import Backtrack.Grammar.Binder
import Backtrack.Main
import Backtrack.Proofs.Grammar.Factoring
import Backtrack.Proofs.Grammar.Relocation
import Backtrack.Proofs.Grammar.Rollback
import Backtrack.Proofs.Grammar.Transaction
import Backtrack.Proofs.Grammar.Truthful
import Backtrack.Proofs.Parser.Bracketing
import Backtrack.Proofs.Session
import Backtrack.Value.Convert
import Backtrack.Value.Test
import Backtrack.Value.Transform
import Backtrack.Proofs.Failure.Furthest
import Backtrack.Proofs.Grammar.Consumption
import Backtrack.Proofs.Grammar.Verbatim
import Backtrack.Proofs.Grammar.Progress
import Backtrack.Proofs.Parser.Ends
import Backtrack.Proofs.Grammar.Termination
import Backtrack.Proofs.Grammar.Retention
import Backtrack.Proofs.Grammar.Repetition
import Backtrack.Proofs.Parser.Integer
import Backtrack.Proofs.Grammar.Chain
import Backtrack.Proofs.Grammar.Brackets
import Backtrack.Proofs.Grammar.LengthPrefix
import Backtrack.Proofs.Person.Record
import Backtrack.Proofs.Grammar.Exchange
import Backtrack.Proofs.Parser.Chaining
import Backtrack.Proofs.Parser.Pairing
import Backtrack.Proofs.Grammar.Trace
import Backtrack.Proofs.Cursor.Advance
import Backtrack.Proofs.Failure.Message
