import Stablecoin.Basic
import Stablecoin.Gate.Basic

/-! # Intents and transfer hooks

An intent is a movement of value that a transaction would make once it is carried out. A hook is
the check that a collaborator asks for just before it moves value: there is one for each kind of
intent, one for the payment of a fee and one for either side of a cross-chain transfer. Both name a
denomination and the accounts concerned; the amount is carried along but never looked at.
-/

namespace Stablecoin

/-- A movement of value found in a transaction. -/
inductive Intent (α δ : Type)
  | send (sender receiver : α) (denomination : δ) (amount : Amount)
  /-- `grantee` moves funds out of the account of `granter`. -/
  | delegatedSend (grantee granter receiver : α) (denomination : δ) (amount : Amount)
  | grant (granter grantee : α) (denomination : δ)
deriving DecidableEq, Repr

namespace Intent

variable {α δ : Type}

def denomination : Intent α δ → δ
  | send _ _ denomination _ | delegatedSend _ _ _ denomination _ | grant _ _ denomination =>
      denomination

/-- The movement that the gate is asked about; a grantee is named before the granter. -/
def movement : Intent α δ → Movement α
  | send sender receiver _ _ => ⟨.send, [sender], [receiver]⟩
  | delegatedSend grantee granter receiver _ _ =>
      ⟨.delegatedSend, [grantee, granter], [receiver]⟩
  | grant granter grantee _ => ⟨.delegationGrant, [granter], [grantee]⟩

end Intent

def Movement.fee {α : Type} (payer : α) : Movement α := ⟨.feePayment, [payer], []⟩

/-- A check asked for just before value moves. -/
inductive Hook
  | send (sender receiver : Account) (denomination : Denomination) (amount : Amount)
  | delegatedSend (grantee granter receiver : Account) (denomination : Denomination)
      (amount : Amount)
  | grant (granter grantee : Account) (denomination : Denomination)
  | fee (payer : Account) (denomination : Denomination) (amount : Amount)
  | receive (sender receiver : Account) (denomination : Denomination) (amount : Amount)
  | outbound (sender receiver : Account) (denomination : Denomination) (amount : Amount)
deriving DecidableEq, Repr

/-- The hook that is asked before an intent is carried out. -/
def Hook.intent : Intent Account Denomination → Hook
  | .send sender receiver denomination amount => .send sender receiver denomination amount
  | .delegatedSend grantee granter receiver denomination amount =>
      .delegatedSend grantee granter receiver denomination amount
  | .grant granter grantee denomination => .grant granter grantee denomination

end Stablecoin
