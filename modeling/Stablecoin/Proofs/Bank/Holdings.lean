import Mathlib.Algebra.BigOperators.Group.List.Basic
import Mathlib.Algebra.GroupWithZero.Nat
import Stablecoin.Proofs.Bank.Transactions

/-! # What all accounts hold

The holdings of a bank are its balances, added up as natural numbers that no word bounds. A bank is
balanced when it has issued what its accounts hold. No account of a balanced bank holds more than
was issued, so the room that a deposit finds in the issuance is there in the balance of the
recipient, and a withdrawal that a balance covers is covered by the issuance.
-/

namespace Stablecoin

/-- Amounts added up as natural numbers. -/
def Amount.sum (amounts : List Amount) : Nat := (amounts.map UInt64.toNat).sum

/-- A table lists the entry of an account and all that stay when it is erased. -/
theorem AccountMap.toList_perm_cons_erase {β : Type} {table : AccountMap β} {who : Account}
    {value : β} (found : table[who]? = some value) :
    table.toList.Perm ((who, value) :: (table.erase who).toList) := by
  have nodup : ∀ listed : AccountMap β, listed.toList.Nodup := by
    intro listed
    refine listed.distinct_keys_toList.imp fun apart same => apart ?_
    exact Std.LawfulEqCmp.compare_eq_iff_eq.mpr (congrArg Prod.fst same)
  have erased : (who, value) ∉ (table.erase who).toList := by
    rw [Std.ExtTreeMap.mem_toList_iff_getElem?_eq_some, Std.ExtTreeMap.getElem?_erase_self]
    exact (Option.some_ne_none value).symm
  rw [List.perm_ext_iff_of_nodup (nodup table) (List.nodup_cons.mpr ⟨erased, nodup _⟩)]
  rintro ⟨other, given⟩
  rw [List.mem_cons, Std.ExtTreeMap.mem_toList_iff_getElem?_eq_some,
    Std.ExtTreeMap.mem_toList_iff_getElem?_eq_some]
  by_cases same : other = who
  · subst same
    rw [found, Std.ExtTreeMap.getElem?_erase_self]
    simp [eq_comm]
  · grind

namespace Bank

/-- What all accounts hold together. -/
def holdings (bank : Bank) : Nat := Amount.sum (bank.balances.toList.map (·.2))

/-- The bank has issued what its accounts hold. -/
def Balanced (bank : Bank) : Prop := bank.issuance.toNat = bank.holdings

variable {bank : Bank} {who : Account} {amount : Amount}

@[simp] theorem holdings_empty : empty.holdings = 0 := rfl

/-- One account and all others make up the holdings. -/
theorem holdings_eq_balanceOf_add (bank : Bank) (who : Account) :
    bank.holdings = (bank.balanceOf who).toNat +
      Amount.sum ((bank.balances.erase who).toList.map (·.2)) := by
  rw [holdings, balanceOf]
  cases found : bank.balances[who]? with
  | some balance =>
    exact (((AccountMap.toList_perm_cons_erase found).map (·.2)).map UInt64.toNat).sum_eq
  | none =>
    have absent : bank.balances.erase who = bank.balances := by
      apply Std.ExtTreeMap.ext_getElem?
      grind
    rw [absent, Option.getD_none]
    exact (Nat.zero_add _).symm

theorem balanceOf_le_holdings (bank : Bank) (who : Account) :
    (bank.balanceOf who).toNat ≤ bank.holdings := by
  rw [bank.holdings_eq_balanceOf_add who]
  exact Nat.le_add_right _ _

/-- Setting one balance moves the holdings by as much. -/
theorem holdings_withBalance (bank : Bank) (who : Account) (amount : Amount) :
    (bank.withBalance who amount).holdings + (bank.balanceOf who).toNat =
      bank.holdings + amount.toNat := by
  have others : (bank.withBalance who amount).balances.erase who = bank.balances.erase who := by
    apply Std.ExtTreeMap.ext_getElem?
    intro other
    unfold withBalance
    split <;> grind
  have before := bank.holdings_eq_balanceOf_add who
  have after := (bank.withBalance who amount).holdings_eq_balanceOf_add who
  rw [others, balanceOf_withBalance, if_pos rfl] at after
  omega

namespace Balanced

/-- Nobody holds more than was issued. -/
theorem balanceOf_le (balanced : bank.Balanced) (who : Account) :
    bank.balanceOf who ≤ bank.issuance := by
  rw [UInt64.le_iff_toNat_le, balanced]
  exact bank.balanceOf_le_holdings who

/-- Room in the issuance is room in every balance. -/
theorem canMint_iff (balanced : bank.Balanced) :
    bank.CanMint who amount ↔ bank.issuance.toNat + amount.toNat < UInt64.size ∧
      0 < (bank.balanceOf who).toNat + amount.toNat := by
  have covered := UInt64.le_iff_toNat_le.mp (balanced.balanceOf_le who)
  constructor
  · rintro ⟨fits, _, kept⟩
    exact ⟨fits, kept⟩
  · rintro ⟨fits, kept⟩
    exact ⟨fits, by omega, kept⟩

/-- What a balance covers is covered by the issuance. -/
theorem canBurn_iff (balanced : bank.Balanced) :
    bank.CanBurn who amount ↔ amount ≤ bank.balanceOf who := by
  constructor
  · exact CanBurn.balance_covers
  · intro covered
    exact ⟨covered, UInt64.le_trans covered (balanced.balanceOf_le who)⟩

theorem credited (balanced : bank.Balanced) (room : bank.CanMint who amount) :
    (Ledger.credited bank who amount).Balanced := by
  have issued := room.toNat_issuance
  have received := room.toNat_balance
  have moved := bank.holdings_withBalance who (bank.balanceOf who + amount)
  rw [balanceOf_credited, if_pos rfl] at received
  unfold Balanced at balanced ⊢
  change _ = (bank.withBalance who (bank.balanceOf who + amount)).holdings
  omega

theorem debited (balanced : bank.Balanced) (covered : bank.CanBurn who amount) :
    (Ledger.debited bank who amount).Balanced := by
  have withdrawn := covered.toNat_issuance
  have left := covered.toNat_balance
  have moved := bank.holdings_withBalance who (bank.balanceOf who - amount)
  rw [balanceOf_debited, if_pos rfl] at left
  unfold Balanced at balanced ⊢
  change _ = (bank.withBalance who (bank.balanceOf who - amount)).holdings
  omega

/-- A deposit needs room in the issuance, and then something to be left with its recipient. -/
theorem mint_eq (balanced : bank.Balanced) :
    bank.mint who amount =
      if bank.issuance.toNat + amount.toNat < UInt64.size then
        if 0 < (bank.balanceOf who).toNat + amount.toNat then
          .ok (Ledger.credited bank who amount)
        else .error .belowMinimum
      else .error .overflow := by
  split
  · next fits =>
    split
    · next kept => exact mint_eq_ok_iff.mpr ⟨balanced.canMint_iff.mpr ⟨fits, kept⟩, rfl⟩
    · next empty =>
      obtain ⟨held, given⟩ := Nat.add_eq_zero_iff.mp (Nat.eq_zero_of_not_pos empty)
      have nothing : bank.balanceOf who = 0 := UInt64.toNat_inj.mp held
      obtain rfl : amount = 0 := UInt64.toNat_inj.mp given
      have issued : Amount.add? bank.issuance 0 = some bank.issuance :=
        Amount.add?_eq_some_iff.mpr (Nat.add_zero _)
      rw [mint, nothing, issued]
      rfl
  · next full => rw [mint, Amount.add?_eq_none_iff.mpr (Nat.not_lt.mp full)]

/-- A deposit overflows only in the issuance. -/
theorem mint_eq_overflow_iff (balanced : bank.Balanced) :
    bank.mint who amount = .error .overflow ↔
      UInt64.size ≤ bank.issuance.toNat + amount.toNat := by
  rw [balanced.mint_eq, ← Nat.not_lt]
  split
  · next fits => split <;> simp [fits]
  · next full => simp [full]

/-- A withdrawal goes through when the balance covers it, and nothing else can go wrong. -/
theorem burn_eq (balanced : bank.Balanced) :
    bank.burn who amount =
      if amount ≤ bank.balanceOf who then .ok (Ledger.debited bank who amount)
      else .error .fundsUnavailable := by
  split
  · next covered => exact burn_eq_ok_iff.mpr ⟨balanced.canBurn_iff.mpr covered, rfl⟩
  · next short => exact if_pos (UInt64.not_le.mp short)

/-- A withdrawal never overflows. -/
theorem burn_ne_overflow (balanced : bank.Balanced) :
    bank.burn who amount ≠ .error .overflow := by
  rw [balanced.burn_eq]
  split <;> simp

end Balanced

end Bank

end Stablecoin
