import Stablecoin.Ledger.Dispatch
import Stablecoin.Ledger.Screening

/-! # Admitting transactions

Before a signed transaction is carried out, every intent found in it is screened in order, and then
its signer as the payer of the fee. A transaction that is refused here changes nothing and reaches
no call. Transactions that no account signed are not screened; an unsigned one is refused all the
same before any call, and a call refuses the root origin by itself.

When fees are paid in the controlled denomination, a paused ledger admits no signed transaction at
all, not even the one that would restart it.
-/

namespace Stablecoin

/-- Why a transaction is not admitted. -/
inductive Invalidity
  | paused
  | senderBlacklisted
  | receiverBlacklisted
  /-- Nobody stands for the transaction. -/
  | unknownOrigin
deriving DecidableEq, Repr

/-- The public code of a screening verdict; an unknown origin has none. -/
def Invalidity.code? : Invalidity → Option Nat
  | paused => some 1
  | senderBlacklisted => some 2
  | receiverBlacklisted => some 3
  | unknownOrigin => none

def Denial.invalidity {α : Type} : Denial α → Invalidity
  | paused => .paused
  | cannotSend _ => .senderBlacklisted
  | cannotReceive _ => .receiverBlacklisted

/-- What a transaction carries out once it is admitted. -/
inductive Payload
  | call (call : Call)
  /-- Does nothing, whoever asks for it. -/
  | remark
deriving DecidableEq, Repr

namespace Ledger

def carryOutPayload (ledger : Ledger) (origin : Origin) :
    Payload → Outcome (Except CallError Unit)
  | .call call => ledger.dispatch origin call
  | .remark => ⟨.ok (), [], [], ledger⟩

def screenFee (ledger : Ledger) (feeDenomination : Denomination) (payer : Account) :
    Audited Invalidity Unit :=
  ((ledger.screen feeDenomination (.fee payer)).onRefusal (.feePayerRejected payer)).mapError
    Denial.invalidity

/-- Screen intents in order, up to the first denial. -/
def screenIntents (ledger : Ledger) : List (Intent Account Denomination) → Audited Invalidity Unit
  | [] => pure ()
  | intent :: rest => do
      (ledger.checkIntent intent).mapError Denial.invalidity
      ledger.screenIntents rest

/-- Screen a transaction in which the given intents were found. -/
def validate (ledger : Ledger) (feeDenomination : Denomination) (origin : Origin)
    (intents : List (Intent Account Denomination)) : Audited Invalidity Unit :=
  match origin with
  | .root | .unsigned => pure ()
  | .signed who => do
      ledger.screenIntents intents
      ledger.screenFee feeDenomination who

/-- Screen a transaction and, if it is admitted, carry out its payload. -/
def submit (ledger : Ledger) (feeDenomination : Denomination) (origin : Origin)
    (payload : Payload) (intents : List (Intent Account Denomination)) :
    Outcome (Except Invalidity (Except CallError Unit)) :=
  let screened := ledger.validate feeDenomination origin intents
  match screened.verdict, origin with
  | .error invalidity, _ => ⟨.error invalidity, [], screened.log, ledger⟩
  | .ok (), .unsigned => ⟨.error .unknownOrigin, [], screened.log, ledger⟩
  | .ok (), _ =>
    let done := ledger.carryOutPayload origin payload
    { done with reply := .ok done.reply, log := screened.log ++ done.log }

end Ledger

end Stablecoin
