import Stablecoin.Proofs.Genesis.Endowment
import Stablecoin.Proofs.Minting.Ceiling
import Stablecoin.SampleHost

/-! # What the supply consists of

Every amount in the bank was there at first or was created since, and every amount that is gone was
destroyed: the events account for the issuance and for each balance, as numbers that no word
bounds. A bank that is balanced at first stays balanced, whatever is asked of the chain.
-/

namespace Stablecoin

namespace Event

/-- How much an event creates. -/
def amountCreated : Event → Nat
  | .minted _ _ amount => amount.toNat
  | _ => 0

/-- How much an event creates for `who`. -/
def amountReceived (who : Account) : Event → Nat
  | .minted _ recipient amount => if recipient = who then amount.toNat else 0
  | _ => 0

/-- How much an event destroys. -/
def amountDestroyed : Event → Nat
  | .burned _ amount => amount.toNat
  | _ => 0

/-- How much of what `who` holds an event destroys. -/
def amountBurned (who : Account) : Event → Nat
  | .burned burner amount => if burner = who then amount.toNat else 0
  | _ => 0

end Event

namespace Bank

/-- A history tells all that happened to a bank: what was created is there unless it was destroyed,
in total and in every account. -/
structure Accounts (first : Bank) (history : List Event) (last : Bank) : Prop where
  issuance : last.issuance.toNat + total (·.amountDestroyed) history =
    first.issuance.toNat + total (·.amountCreated) history
  balance : ∀ who, (last.balanceOf who).toNat + total (·.amountBurned who) history =
    (first.balanceOf who).toNat + total (·.amountReceived who) history
  balanced : first.Balanced → last.Balanced

namespace Accounts

variable {first middle last : Bank} {history : List Event}

theorem nil (bank : Bank) : bank.Accounts [] bank := ⟨rfl, fun _ => rfl, id⟩

theorem append {earlier later : List Event} (left : first.Accounts earlier middle)
    (right : middle.Accounts later last) : first.Accounts (earlier ++ later) last where
  issuance := by
    have before := left.issuance
    have after := right.issuance
    simp only [total, List.map_append, List.sum_append] at before after ⊢
    omega
  balance who := by
    have before := left.balance who
    have after := right.balance who
    simp only [total, List.map_append, List.sum_append] at before after ⊢
    omega
  balanced := right.balanced ∘ left.balanced

end Accounts

end Bank

/-- A permitted event accounts for what it does to the bank. -/
theorem Ledger.Permits.accounts {ledger : Ledger} {caller : Account} {event : Event}
    (permitted : ledger.Permits caller event) :
    ledger.bank.Accounts [event] (ledger.apply event).bank := by
  cases event with
  | minted minter recipient amount =>
    have room := permitted.2.2.2
    exact ⟨room.toNat_issuance, room.toNat_balanceOf, fun balanced => balanced.credited room⟩
  | burned minter amount =>
    obtain ⟨rfl, _, covered⟩ := permitted
    exact ⟨covered.toNat_issuance, covered.toNat_balanceOf,
      fun balanced => balanced.debited covered⟩
  | _ => exact ⟨rfl, fun _ => rfl, id⟩

namespace Chain

/-- Whatever is asked of a chain, also a write past all checks, only a call touches the bank. -/
theorem accounts_step (chain : Chain) (command : Command) :
    chain.ledger.bank.Accounts (chain.step command).events
      (chain.step command).chain.ledger.bank := by
  by_cases regular : command.Regular
  · obtain ⟨signer, event, advances⟩ | rests := chain.step_cases regular
    · rw [advances.events, advances.ledger]
      exact advances.permitted.accounts
    · rw [rests.events, rests.ledger]
      exact .nil _
  · cases command with
    | vacate seat => exact .nil _
    | writeMinter minter record => exact .nil _
    | _ => exact absurd trivial regular

theorem accounts_after (chain : Chain) (commands : List Command) :
    chain.ledger.bank.Accounts (chain.deposited commands) (chain.after commands).ledger.bank := by
  induction commands generalizing chain with
  | nil => exact .nil _
  | cons command rest ih => exact (chain.accounts_step command).append (ih _)

end Chain

/-- The issuance and each balance are what the genesis gave out and mints created, less what burns
destroyed. -/
theorem supply_accounted {genesis : Genesis} {ledger : Ledger} (built : genesis.build = .ok ledger)
    (fits : genesis.supply < UInt64.size) (feeDenomination : Denomination)
    (commands : List Command) :
    let chain : Chain := ⟨ledger, feeDenomination⟩
    let bank := (chain.after commands).ledger.bank
    let history := chain.deposited commands
    bank.issuance.toNat = bank.holdings ∧ bank.holdings < UInt64.size ∧
    bank.issuance.toNat + total (·.amountDestroyed) history =
      genesis.supply + total (·.amountCreated) history ∧
    (∀ who, (bank.balanceOf who).toNat + total (·.amountBurned who) history =
      genesis.balanceOf who + total (·.amountReceived who) history) ∧
    (∀ who amount, bank.mint who amount = .error .overflow ↔
      UInt64.size ≤ bank.issuance.toNat + amount.toNat) ∧
    ∀ who amount, bank.burn who amount ≠ .error .overflow := by
  intro chain bank history
  have started : chain.ledger.bank.Balanced := Genesis.balanced_of_build built fits
  have accounts := chain.accounts_after commands
  have balanced : bank.Balanced := accounts.balanced started
  have issued := accounts.issuance
  rw [started, ← Genesis.supply_of_build built] at issued
  refine ⟨balanced, ?_, issued, ?_, ?_, ?_⟩
  · rw [← balanced]
    exact bank.issuance.toNat_lt
  · intro who
    rw [Genesis.balanceOf_of_build built]
    exact accounts.balance who
  · intro who amount
    exact balanced.mint_eq_overflow_iff
  · intro who amount
    exact balanced.burn_ne_overflow

open SampleHost in
/-- Mints and burns on the sample host are accounted for, also by a record written past all checks.
-/
theorem supply_accounted_of_sample :
    let most : Amount := 18446744073709551615
    let commands : List Command :=
      [.dispatch (.signed minter) (.mint bob 30), .dispatch (.signed minter) (.burn 10),
        .dispatch (.signed minter) (.mint bob most), .writeMinter charlie ⟨5, true⟩,
        .submit (.signed charlie) (.call (.mint alice 5)) []]
    let bank := (firstChain.after commands).ledger.bank
    genesis.build = .ok firstLedger ∧ genesis.supply = 1050 ∧
      firstChain.deposited commands =
        [.minted minter bob 30, .burned minter 10, .minted charlie alice 5] ∧
      bank.issuance.toNat = bank.holdings ∧ bank.issuance.toNat + 10 = 1050 + 35 ∧
      (bank.balanceOf minter).toNat + 10 = 50 ∧ (bank.balanceOf alice).toNat = 1000 + 5 ∧
      bank.mint bob most = .error .overflow := by
  intro most commands bank
  have deposited : Chain.deposited ⟨firstLedger, otherDenomination⟩ commands =
      [.minted minter bob 30, .burned minter 10, .minted charlie alice 5] := by decide +kernel
  obtain ⟨balanced, _, issued, balances, overflows, _⟩ :=
    supply_accounted build_genesis (by decide) otherDenomination commands
  rw [deposited] at issued balances
  have refused : bank.mint bob most = .error .overflow :=
    (overflows bob most).mpr (by decide +kernel)
  exact ⟨build_genesis, rfl, deposited, balanced, issued, balances minter, balances alice, refused⟩

end Stablecoin
