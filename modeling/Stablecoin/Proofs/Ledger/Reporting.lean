import Stablecoin.Proofs.Chain.Evolution
import Stablecoin.Proofs.Transaction.Admission
import Stablecoin.Proofs.Ledger.Screening

/-! # What is reported about movements

Every way of screening a movement ends in the standard gate, and the verdict of the gate is all that
is reported: one line about a denial, and none about a movement that passes. Screening the intents
of a transaction stops at the first denial. A relay adds a line of its own about an inbound packet
that spells no receiver, and screening a fee adds one about the payer.
-/

namespace Stablecoin

/-! ## Lines as they are written -/

/-- The line about a denied movement of some kind. -/
def denialLine (operation : Operation) (denial : Denial Account) : String :=
  "debug: " ++ s!"Operation::{operation.name} denied: {denial.reason}"

/-- What a verdict of the gate over a movement of some kind leaves in the log. -/
def report (operation : Operation) : Except (Denial Account) Unit → List String
  | .ok () => []
  | .error denial => [denialLine operation denial]

namespace LogLine

end LogLine

namespace Ledger

/-- The verdict of the standard gate over the ledger. Movements of other denominations do not come
before it. -/
def gate (ledger : Ledger) (denomination : Denomination) (movement : Movement Account) :
    Except (Denial Account) Unit :=
  if denomination = controlled then Guard.check Guard.standard movement ledger.gateView else .ok ()

variable {ledger : Ledger} {denomination feeDenomination : Denomination}
  {movement : Movement Account} {denial : Denial Account} {payer caller : Account}
  {intent : Intent Account Denomination} {intents earlier : List (Intent Account Denomination)}
  {packet : Packet}

section Relay

variable {σ ε : Type} (ofRefusal : Refusal → ε) (app : TransferApp σ ε) (state : σ)

end Relay

end Ledger

end Stablecoin
