import Mathlib.Logic.Basic
import Stablecoin.Genesis
import Stablecoin.Refusal

/-! # What a genesis builds

A genesis is accepted when its balances can be endowed and every listed allowance fits a word. The
first ledger then holds what is listed, and its tables answer with the last entry for an account.
-/

namespace Stablecoin

/-- A table built from entries answers with the last one for an account. -/
theorem AccountMap.getElem?_ofList {β : Type} (entries : List (Account × β)) (who : Account) :
    (Std.ExtTreeMap.ofList entries : AccountMap β)[who]? = entries.reverse.lookup who := by
  rw [Std.ExtTreeMap.ofList_eq_insertMany_empty, Std.ExtTreeMap.getElem?_insertMany_list,
    List.findSomeRev?_eq_findSome?_reverse, Std.ExtTreeMap.getElem?_empty, Option.or_none,
    List.lookup_eq_findSome?]
  congr
  funext ⟨key, value⟩
  have same : compare key who = .eq ↔ (who == key) = true := by
    rw [Std.LawfulEqCmp.compare_eq_iff_eq, beq_iff_eq, eq_comm]
  simp only [same]

namespace Genesis

/-- The ledger that a genesis describes, above a bank that is already endowed. -/
def ledgerAbove (genesis : Genesis) (bank : Bank) : Ledger where
  roles := ⟨genesis.owner, none, genesis.masterMinter, genesis.pauser, genesis.blacklister⟩
  paused := genesis.paused
  blacklist := .ofList genesis.blacklist
  controllers := .ofList genesis.controllers
  minters := .ofList genesis.minterRecords
  bank := bank

/-- The allowance that the last entry for a minter gives it. -/
def allowance? (genesis : Genesis) (minter : Account) : Option Nat :=
  genesis.minters.reverse.lookup minter

/-- The minter of the last entry for a controller. -/
def minterOf? (genesis : Genesis) (controller : Account) : Option Account :=
  genesis.controllers.reverse.lookup controller

/-- The seats as a genesis fills them; the ownership is on offer to nobody. -/
def roles (genesis : Genesis) : Roles :=
  ⟨genesis.owner, none, genesis.masterMinter, genesis.pauser, genesis.blacklister⟩

variable {genesis : Genesis} {ledger : Ledger}

theorem build_eq_ok_iff :
    genesis.build = .ok ledger ↔
      (∀ entry ∈ genesis.minters, entry.2 < UInt64.size) ∧
        ∃ bank, Bank.endow genesis.balances = .ok bank ∧ ledger = genesis.ledgerAbove bank := by
  have fits : (∀ entry ∈ genesis.minters, entry.2 < UInt64.size) ↔
      ¬ genesis.minters.any (UInt64.size ≤ ·.2) = true := by
    simp only [List.any_eq_true, decide_eq_true_eq, not_exists, not_and, Nat.not_le]
  rw [build, bind_eq_ok_iff, fits]
  constructor
  · rintro ⟨bank, endowed, built⟩
    split at built
    · contradiction
    · next fits => exact ⟨fits, bank, endowed, (Except.ok.inj built).symm⟩
  · rintro ⟨fits, bank, endowed, rfl⟩
    exact ⟨bank, endowed, if_neg fits⟩

theorem roles_of_build (built : genesis.build = .ok ledger) : ledger.roles = genesis.roles := by
  obtain ⟨_, bank, _, rfl⟩ := build_eq_ok_iff.mp built
  rfl

theorem getElem?_controllers_of_build (built : genesis.build = .ok ledger)
    (controller : Account) : ledger.controllers[controller]? = genesis.minterOf? controller := by
  obtain ⟨_, bank, _, rfl⟩ := build_eq_ok_iff.mp built
  exact AccountMap.getElem?_ofList genesis.controllers controller

/-- An account is frozen at first when it is listed, however often. -/
theorem isBlacklisted_of_build (built : genesis.build = .ok ledger) (who : Account) :
    ledger.isBlacklisted who = genesis.blacklist.contains who := by
  obtain ⟨_, bank, _, rfl⟩ := build_eq_ok_iff.mp built
  exact Std.ExtTreeSet.contains_ofList

private theorem lookup_map {α β γ : Type} [BEq α] (view : β → γ) (entries : List (α × β))
    (key : α) :
    (entries.map fun entry => (entry.1, view entry.2)).lookup key =
      (entries.lookup key).map view := by
  induction entries with
  | nil => rfl
  | cons entry rest ih =>
    obtain ⟨other, value⟩ := entry
    rw [List.map_cons, List.lookup_cons, List.lookup_cons, ih]
    cases key == other <;> rfl

/-- Every listed minter starts active, with the allowance of its last entry. -/
theorem getElem?_minters_of_build (built : genesis.build = .ok ledger) (minter : Account) :
    ledger.minters[minter]? =
      (genesis.allowance? minter).map fun allowance => ⟨allowance.toUInt64, true⟩ := by
  obtain ⟨_, bank, _, rfl⟩ := build_eq_ok_iff.mp built
  rw [ledgerAbove, AccountMap.getElem?_ofList, minterRecords, ← List.map_reverse, allowance?]
  exact lookup_map (fun allowance : Nat => MinterRecord.mk allowance.toUInt64 true) _ minter

/-- An accepted genesis lists no allowance that a word could not hold. -/
theorem allowance?_lt_of_build (built : genesis.build = .ok ledger) {minter : Account}
    {allowance : Nat} (listed : genesis.allowance? minter = some allowance) :
    allowance < UInt64.size := by
  obtain ⟨fits, _⟩ := build_eq_ok_iff.mp built
  obtain ⟨_, _, same, _⟩ := List.lookup_eq_some_iff.mp listed
  apply fits (minter, allowance)
  rw [← List.mem_reverse, same]
  exact List.mem_append_right _ List.mem_cons_self

/-- What a minter starts with, as a number. -/
theorem allowance?_of_build (built : genesis.build = .ok ledger) (minter : Account) :
    genesis.allowance? minter = ledger.minters[minter]?.map (·.allowance.toNat) := by
  rw [getElem?_minters_of_build built, Option.map_map]
  cases listed : genesis.allowance? minter with
  | none => rfl
  | some allowance =>
    have fits := allowance?_lt_of_build built listed
    simp [Nat.mod_eq_of_lt fits]

end Genesis

end Stablecoin
