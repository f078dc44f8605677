import Stablecoin.Proofs.Bank.Holdings
import Stablecoin.Proofs.Genesis.Build

/-! # What a genesis endows

A genesis that is accepted lists positive balances of distinct accounts. Its bank holds what is
listed, and has issued the sum of it as a word: when the sum fits, the bank is balanced.
-/

namespace Stablecoin

namespace Bank

variable {bank : Bank} {balances : List (Account × Amount)}

/-- The bank after balances were set one after the other. -/
def fill (bank : Bank) (balances : List (Account × Amount)) : Bank :=
  balances.foldl (fun bank (who, amount) => bank.withBalance who amount) bank

theorem balanceOf_fill (distinct : (balances.map (·.1)).Nodup) (bank : Bank) (who : Account) :
    (bank.fill balances).balanceOf who = (balances.lookup who).getD (bank.balanceOf who) := by
  induction balances generalizing bank with
  | nil => rfl
  | cons entry rest ih =>
    obtain ⟨holder, amount⟩ := entry
    rw [List.map_cons, List.nodup_cons] at distinct
    change ((bank.withBalance holder amount).fill rest).balanceOf who = _
    rw [ih distinct.2, balanceOf_withBalance, List.lookup_cons]
    by_cases own : who = holder
    · subst own
      have once : rest.lookup who = none := by
        rw [List.lookup_eq_none_iff]
        intro other member
        exact bne_iff_ne.mpr fun same => distinct.1 (List.mem_map.mpr ⟨other, member, same.symm⟩)
      rw [once, if_pos rfl, beq_self_eq_true]
      rfl
    · rw [if_neg (Ne.symm own), beq_false_of_ne own]

/-- Accounts that held nothing bring in what they are given. -/
theorem holdings_fill (bank : Bank) (distinct : (balances.map (·.1)).Nodup)
    (fresh : ∀ entry ∈ balances, bank.balanceOf entry.1 = 0) :
    (bank.fill balances).holdings = bank.holdings + Amount.sum (balances.map (·.2)) := by
  induction balances generalizing bank with
  | nil => rfl
  | cons entry rest ih =>
    rw [List.map_cons, List.nodup_cons] at distinct
    rw [List.forall_mem_cons] at fresh
    have untouched : ∀ other ∈ rest,
        (bank.withBalance entry.1 entry.2).balanceOf other.1 = 0 := by
      intro other member
      have apart : entry.1 ≠ other.1 := fun same => distinct.1 (same ▸ List.mem_map_of_mem member)
      rw [balanceOf_withBalance, if_neg apart]
      exact fresh.2 other member
    have moved := bank.holdings_withBalance entry.1 entry.2
    rw [fresh.1, UInt64.toNat_zero, Nat.add_zero] at moved
    change ((bank.withBalance entry.1 entry.2).fill rest).holdings = _
    rw [ih _ distinct.2 untouched, moved, List.map_cons]
    exact Nat.add_assoc ..

/-- Words add up like numbers as long as the sum fits. -/
theorem toNat_foldl_add (balances : List (Account × Amount)) (start : Amount)
    (fits : start.toNat + Amount.sum (balances.map (·.2)) < UInt64.size) :
    (balances.foldl (fun issuance (_, amount) => issuance + amount) start).toNat =
      start.toNat + Amount.sum (balances.map (·.2)) := by
  induction balances generalizing start with
  | nil => rfl
  | cons entry rest ih =>
    simp only [Amount.sum, List.map_cons, List.sum_cons] at fits ih ⊢
    have next : (start + entry.2).toNat = start.toNat + entry.2.toNat := by
      rw [UInt64.toNat_add, Nat.mod_eq_of_lt]
      exact Nat.lt_of_le_of_lt (by omega) fits
    change (rest.foldl _ (start + entry.2)).toNat = _
    rw [ih _ (by omega), next, Nat.add_assoc]

/-- Endowing asks for positive balances of distinct accounts, and sets them. -/
theorem endow_eq_ok_iff :
    endow balances = .ok bank ↔
      (∀ entry ∈ balances, entry.2 ≠ 0) ∧ (balances.map (·.1)).Nodup ∧
        bank = { empty.fill balances with
          issuance := balances.foldl (fun issuance (_, amount) => issuance + amount) 0 } := by
  have positive : (∀ entry ∈ balances, entry.2 ≠ 0) ↔ ¬ balances.any (·.2 == 0) = true := by
    simp only [List.any_eq_true, beq_iff_eq, not_exists, not_and, ne_eq]
  rw [endow, positive]
  constructor
  · intro endowed
    split at endowed
    · cases endowed
    · next full =>
      split at endowed
      · cases endowed
      · next distinct => exact ⟨full, not_not.mp distinct, (Except.ok.inj endowed).symm⟩
  · rintro ⟨full, distinct, rfl⟩
    rw [if_neg full, if_neg (not_not.mpr distinct)]
    rfl

/-- An endowed bank holds what is listed. -/
theorem balanceOf_of_endow (endowed : endow balances = .ok bank) (who : Account) :
    bank.balanceOf who = (balances.lookup who).getD 0 := by
  obtain ⟨_, distinct, rfl⟩ := endow_eq_ok_iff.mp endowed
  exact balanceOf_fill distinct empty who

theorem holdings_of_endow (endowed : endow balances = .ok bank) :
    bank.holdings = Amount.sum (balances.map (·.2)) := by
  obtain ⟨_, distinct, rfl⟩ := endow_eq_ok_iff.mp endowed
  have filled := empty.holdings_fill distinct fun _ _ => rfl
  rw [holdings_empty, Nat.zero_add] at filled
  exact filled

/-- When the listed balances add up to a word, the endowed bank is balanced. -/
theorem balanced_of_endow (endowed : endow balances = .ok bank)
    (fits : Amount.sum (balances.map (·.2)) < UInt64.size) : bank.Balanced := by
  rw [Balanced, holdings_of_endow endowed]
  obtain ⟨_, _, rfl⟩ := endow_eq_ok_iff.mp endowed
  have issued := toNat_foldl_add balances 0 (by rwa [UInt64.toNat_zero, Nat.zero_add])
  rw [UInt64.toNat_zero, Nat.zero_add] at issued
  exact issued

end Bank

namespace Genesis

/-- What a genesis gives to an account. -/
def balanceOf (genesis : Genesis) (who : Account) : Nat :=
  ((genesis.balances.lookup who).map UInt64.toNat).getD 0

/-- All that a genesis gives out. -/
def supply (genesis : Genesis) : Nat := Amount.sum (genesis.balances.map (·.2))

variable {genesis : Genesis} {ledger : Ledger}

theorem balanceOf_of_build (built : genesis.build = .ok ledger) (who : Account) :
    genesis.balanceOf who = (ledger.bank.balanceOf who).toNat := by
  obtain ⟨_, bank, endowed, rfl⟩ := build_eq_ok_iff.mp built
  change _ = (bank.balanceOf who).toNat
  rw [Bank.balanceOf_of_endow endowed, balanceOf]
  cases genesis.balances.lookup who <;> rfl

theorem supply_of_build (built : genesis.build = .ok ledger) :
    genesis.supply = ledger.bank.holdings := by
  obtain ⟨_, bank, endowed, rfl⟩ := build_eq_ok_iff.mp built
  exact (Bank.holdings_of_endow endowed).symm

theorem balanced_of_build (built : genesis.build = .ok ledger)
    (fits : genesis.supply < UInt64.size) : ledger.bank.Balanced := by
  obtain ⟨_, bank, endowed, rfl⟩ := build_eq_ok_iff.mp built
  exact Bank.balanced_of_endow endowed fits

end Genesis

end Stablecoin
