import Stablecoin.Audit
import Stablecoin.Gate.Intent
import Stablecoin.Ledger.Basic
import Stablecoin.Refusal

/-! # Screening movements

The ledger runs the standard gate over its own pause flag and blacklist. Only the controlled
denomination is screened, and every denial leaves one line in the audit log.
-/

namespace Stablecoin

def Denial.refusal {α : Type} : Denial α → Refusal
  | paused => .paused
  | cannotSend _ => .senderBlacklisted
  | cannotReceive _ => .receiverBlacklisted

namespace Ledger

def gateView (ledger : Ledger) : GateView Account := ⟨ledger.paused, ledger.isBlacklisted⟩

/-- Run the standard gate over a movement, whatever it moves. -/
def evaluate (ledger : Ledger) (movement : Movement Account) : Audited (Denial Account) Unit :=
  match Guard.check Guard.standard movement ledger.gateView with
  | .ok () => pure ()
  | .error denial => .refuse denial (.movementDenied movement.operation denial)

/-- Run the standard gate over a movement of the controlled denomination. -/
def screen (ledger : Ledger) (denomination : Denomination) (movement : Movement Account) :
    Audited (Denial Account) Unit :=
  if denomination = controlled then ledger.evaluate movement else pure ()

/-- Screen a movement, and refuse it in the words of the ledger. -/
def enforce (ledger : Ledger) (denomination : Denomination) (movement : Movement Account) :
    Audited Refusal Unit :=
  (ledger.screen denomination movement).mapError Denial.refusal

def checkIntent (ledger : Ledger) (intent : Intent Account Denomination) :
    Audited (Denial Account) Unit :=
  ledger.screen intent.denomination intent.movement

def enforceIntent (ledger : Ledger) (intent : Intent Account Denomination) :
    Audited Refusal Unit :=
  (ledger.checkIntent intent).mapError Denial.refusal

/-- Screen a movement that is about to be made. -/
def checkHook (ledger : Ledger) : Hook → Audited Refusal Unit
  | .send sender receiver denomination amount =>
      ledger.enforceIntent (.send sender receiver denomination amount)
  | .delegatedSend grantee granter receiver denomination amount =>
      ledger.enforceIntent (.delegatedSend grantee granter receiver denomination amount)
  | .grant granter grantee denomination =>
      ledger.enforceIntent (.grant granter grantee denomination)
  -- The other three are for movements that no intent announces.
  | .fee payer denomination _ => ledger.enforce denomination (.fee payer)
  | .receive sender receiver denomination _ =>
      ledger.enforce denomination ⟨.crossChainReceive, [sender], [receiver]⟩
  | .outbound sender receiver denomination _ =>
      ledger.enforce denomination ⟨.crossChainSend, [sender], [receiver]⟩

end Ledger

end Stablecoin
