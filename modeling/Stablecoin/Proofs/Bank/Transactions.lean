import Mathlib.Logic.Basic
import Stablecoin.Ledger.Replay

/-! # When the bank carries out a transaction

The bank creates an amount exactly when the issuance and the balance have room for it and the
recipient is left with something, and destroys one exactly when the balance and the issuance cover
it. A transaction that goes through changes one balance and the issuance by the amount.
-/

namespace Stablecoin.Bank

/-- There is room for an amount, and it leaves its recipient with something. -/
structure CanMint (bank : Bank) (recipient : Account) (amount : Amount) : Prop where
  issuance_fits : bank.issuance.toNat + amount.toNat < UInt64.size
  balance_fits : (bank.balanceOf recipient).toNat + amount.toNat < UInt64.size
  not_empty : 0 < (bank.balanceOf recipient).toNat + amount.toNat

/-- An amount is covered by what an account holds, and by what was issued at all. -/
structure CanBurn (bank : Bank) (who : Account) (amount : Amount) : Prop where
  balance_covers : amount ≤ bank.balanceOf who
  issuance_covers : amount ≤ bank.issuance

variable {bank next : Bank} {who : Account} {amount : Amount}

private theorem add?_of_fits {left right : Amount}
    (fits : left.toNat + right.toNat < UInt64.size) :
    Amount.add? left right = some (left + right) := if_pos fits

theorem toNat_add_of_fits {left right : Amount}
    (fits : left.toNat + right.toNat < UInt64.size) :
    (left + right).toNat = left.toNat + right.toNat := by
  rw [UInt64.toNat_add]
  exact Nat.mod_eq_of_lt fits

private theorem sum_eq_zero_iff {left right : Amount}
    (fits : left.toNat + right.toNat < UInt64.size) :
    left + right = 0 ↔ left.toNat + right.toNat = 0 := by
  rw [← UInt64.toNat_inj, toNat_add_of_fits fits, UInt64.toNat_zero]

theorem mint_eq_ok_iff :
    bank.mint who amount = .ok next ↔
      bank.CanMint who amount ∧ next = Ledger.credited bank who amount := by
  constructor
  · intro minted
    simp only [mint, Amount.add?] at minted
    split at minted
    · next issuance balance issued held =>
      obtain ⟨issuanceFits, ⟨⟩⟩ := Option.ite_none_right_eq_some.mp issued
      obtain ⟨balanceFits, ⟨⟩⟩ := Option.ite_none_right_eq_some.mp held
      split at minted
      · contradiction
      · next kept =>
        rw [sum_eq_zero_iff balanceFits] at kept
        exact ⟨⟨issuanceFits, balanceFits, by omega⟩, (Except.ok.inj minted).symm⟩
    · contradiction
  · rintro ⟨room, rfl⟩
    have kept : bank.balanceOf who + amount ≠ 0 := by
      rw [ne_eq, sum_eq_zero_iff room.balance_fits]
      exact Nat.ne_of_gt room.not_empty
    simp only [mint, add?_of_fits room.issuance_fits, add?_of_fits room.balance_fits, if_neg kept]
    rfl

theorem burn_eq_ok_iff :
    bank.burn who amount = .ok next ↔
      bank.CanBurn who amount ∧ next = Ledger.debited bank who amount := by
  simp only [burn, ← UInt64.not_le]
  constructor
  · intro burned
    split at burned
    · contradiction
    · next balance =>
      split at burned
      · contradiction
      · next issuance =>
        exact ⟨⟨not_not.mp balance, not_not.mp issuance⟩, (Except.ok.inj burned).symm⟩
  · rintro ⟨covered, rfl⟩
    rw [if_neg (not_not.mpr covered.balance_covers), if_neg (not_not.mpr covered.issuance_covers)]
    rfl

/-! ## What a transaction leaves -/

@[simp] theorem balanceOf_credited (bank : Bank) (who other : Account) (amount : Amount) :
    (Ledger.credited bank who amount).balanceOf other =
      if who = other then bank.balanceOf who + amount else bank.balanceOf other :=
  balanceOf_withBalance bank who other _

@[simp] theorem balanceOf_debited (bank : Bank) (who other : Account) (amount : Amount) :
    (Ledger.debited bank who amount).balanceOf other =
      if who = other then bank.balanceOf who - amount else bank.balanceOf other :=
  balanceOf_withBalance bank who other _

theorem CanMint.toNat_balance (room : bank.CanMint who amount) :
    ((Ledger.credited bank who amount).balanceOf who).toNat =
      (bank.balanceOf who).toNat + amount.toNat := by
  rw [balanceOf_credited, if_pos rfl, toNat_add_of_fits room.balance_fits]

/-- Nobody but the recipient of a deposit gains from it. -/
theorem CanMint.toNat_balanceOf (room : bank.CanMint who amount) (other : Account) :
    ((Ledger.credited bank who amount).balanceOf other).toNat =
      (bank.balanceOf other).toNat + if who = other then amount.toNat else 0 := by
  by_cases own : who = other
  · subst own
    rw [room.toNat_balance, if_pos rfl]
  · rw [balanceOf_credited, if_neg own, if_neg own, Nat.add_zero]

theorem CanMint.toNat_issuance (room : bank.CanMint who amount) :
    (Ledger.credited bank who amount).issuance.toNat = bank.issuance.toNat + amount.toNat :=
  toNat_add_of_fits room.issuance_fits

/-- What was deposited can be withdrawn again. -/
theorem CanMint.canBurn_credited (room : bank.CanMint who amount) :
    (Ledger.credited bank who amount).CanBurn who amount where
  balance_covers := by
    rw [UInt64.le_iff_toNat_le, room.toNat_balance]
    exact Nat.le_add_left _ _
  issuance_covers := by
    rw [UInt64.le_iff_toNat_le, room.toNat_issuance]
    exact Nat.le_add_left _ _

/-- A withdrawal undoes a deposit of the same amount. -/
theorem debited_credited (bank : Bank) (who : Account) (amount : Amount) :
    Ledger.debited (Ledger.credited bank who amount) who amount = bank := by
  apply ext_of_balanceOf
  · exact UInt64.add_sub_cancel _ _
  · intro other
    rw [balanceOf_debited, balanceOf_credited, balanceOf_credited, if_pos rfl]
    split
    · next own => rw [UInt64.add_sub_cancel, own]
    · rfl

theorem CanBurn.toNat_balance (covered : bank.CanBurn who amount) :
    ((Ledger.debited bank who amount).balanceOf who).toNat + amount.toNat =
      (bank.balanceOf who).toNat := by
  have enough := UInt64.le_iff_toNat_le.mp covered.balance_covers
  rw [balanceOf_debited, if_pos rfl, UInt64.toNat_sub_of_le _ _ covered.balance_covers]
  exact Nat.sub_add_cancel enough

/-- Nobody but the account of a withdrawal loses by it. -/
theorem CanBurn.toNat_balanceOf (covered : bank.CanBurn who amount) (other : Account) :
    ((Ledger.debited bank who amount).balanceOf other).toNat +
      (if who = other then amount.toNat else 0) = (bank.balanceOf other).toNat := by
  by_cases own : who = other
  · subst own
    rw [if_pos rfl, covered.toNat_balance]
  · rw [balanceOf_debited, if_neg own, if_neg own, Nat.add_zero]

theorem CanBurn.toNat_issuance (covered : bank.CanBurn who amount) :
    (Ledger.debited bank who amount).issuance.toNat + amount.toNat = bank.issuance.toNat := by
  have enough := UInt64.le_iff_toNat_le.mp covered.issuance_covers
  change (bank.issuance - amount).toNat + amount.toNat = bank.issuance.toNat
  rw [UInt64.toNat_sub_of_le _ _ covered.issuance_covers]
  exact Nat.sub_add_cancel enough

end Stablecoin.Bank
