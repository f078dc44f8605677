import Stablecoin.Basic
import Stablecoin.Refusal

/-! # The bank

The bank keeps the balances of the controlled denomination and the total it has issued. An account
with nothing has no entry, so two banks with the same balances are equal. A deposit is refused when
the issuance would leave the range of a word, or when the account would still be empty after it; a
withdrawal is exact and may empty the account.
-/

namespace Stablecoin

/-- Balances and issuance of the controlled denomination. -/
structure Bank where
  balances : AccountMap Amount
  issuance : Amount
  /-- An account that holds nothing has no entry. -/
  no_empty_account : ∀ who : Account, balances[who]? ≠ some 0
deriving DecidableEq

namespace Bank

def empty : Bank := ⟨∅, 0, by simp⟩

def balanceOf (bank : Bank) (who : Account) : Amount := bank.balances[who]?.getD 0

/-- The bank in which `who` holds `amount`; the issuance is left alone. -/
def withBalance (bank : Bank) (who : Account) (amount : Amount) : Bank :=
  if nothing : amount = 0 then
    { bank with
      balances := bank.balances.erase who
      no_empty_account := by have := bank.no_empty_account; grind }
  else
    { bank with
      balances := bank.balances.insert who amount
      no_empty_account := by have := bank.no_empty_account; grind }

@[simp] theorem balanceOf_withBalance (bank : Bank) (who other : Account) (amount : Amount) :
    (bank.withBalance who amount).balanceOf other =
      if who = other then amount else bank.balanceOf other := by
  unfold withBalance balanceOf
  split <;> grind

@[simp] theorem issuance_withBalance (bank : Bank) (who : Account) (amount : Amount) :
    (bank.withBalance who amount).issuance = bank.issuance := by
  unfold withBalance
  split <;> rfl

/-- Banks are equal when they agree on the issuance and on what every account holds. -/
theorem ext_of_balanceOf {left right : Bank} (issuance : left.issuance = right.issuance)
    (balances : ∀ who, left.balanceOf who = right.balanceOf who) : left = right := by
  obtain ⟨leftBalances, _, leftFull⟩ := left
  obtain ⟨rightBalances, _, rightFull⟩ := right
  obtain rfl : leftBalances = rightBalances := by
    apply Std.ExtTreeMap.ext_getElem?
    intro who
    have agree := balances who
    have leftSome := leftFull who
    have rightSome := rightFull who
    simp only [balanceOf] at agree
    cases foundLeft : leftBalances[who]? <;> cases foundRight : rightBalances[who]? <;> grind
  obtain rfl := issuance
  rfl

def mint (bank : Bank) (recipient : Account) (amount : Amount) : Except BankError Bank :=
  -- The sums come first: a deposit that overflows is never found too small.
  match Amount.add? bank.issuance amount, Amount.add? (bank.balanceOf recipient) amount with
  | some issuance, some balance =>
      if balance = 0 then .error .belowMinimum
      else .ok { bank.withBalance recipient balance with issuance }
  | _, _ => .error .overflow

/-- Destroy exactly `amount` of what `who` holds. -/
def burn (bank : Bank) (who : Account) (amount : Amount) : Except BankError Bank :=
  if bank.balanceOf who < amount then .error .fundsUnavailable
  else if bank.issuance < amount then .error .overflow
  else
    .ok { bank.withBalance who (bank.balanceOf who - amount) with
      issuance := bank.issuance - amount }

end Bank

end Stablecoin
