import Stablecoin.Proofs.Bank.Holdings
import Stablecoin.Proofs.Ledger.Records
import Stablecoin.Proofs.Minting.Obstacle
import Stablecoin.SampleHost

/-! # What minting requires and what it does

Minting requires seven things, and it fails with the error of the first that is missing. Over a
balanced bank the last two are plain: the issuance has room for the amount, and the recipient is
left with something. When nothing is missing, the amount is taken from the allowance and given to
the recipient, exactly, and nothing else changes.
-/

namespace Stablecoin

theorem Amount.eq_saturatingSub_of_add_eq {left right rest : Amount}
    (parts : rest.toNat + right.toNat = left.toNat) : rest = left.saturatingSub right := by
  have covered : right ≤ left := UInt64.le_iff_toNat_le.mpr (by omega)
  rw [saturatingSub_of_le covered, ← UInt64.toNat_inj, UInt64.toNat_sub_of_le _ _ covered]
  omega

/-- Something that a call requires, and the error with which the call fails when this is the first
of its requirements that is not met. -/
structure Requirement where
  met : Bool
  error : CallError

namespace Requirement

/-- The verdict on a list of requirements: the first one that is not met decides. -/
def verdict : List Requirement → Except CallError Unit
  | [] => .ok ()
  | requirement :: rest => if requirement.met then verdict rest else .error requirement.error

end Requirement

namespace Ledger

/-- What it takes to move value as a minter. -/
def minterRequirements (ledger : Ledger) (minter : Account) : List Requirement :=
  [⟨!ledger.paused, .refused .mintingPaused⟩,
    ⟨(ledger.activeMinter? minter).isSome, .refused .notMinter⟩,
    ⟨!ledger.isBlacklisted minter, .refused .minterBlacklisted⟩]

/-- What it takes to create an amount for a recipient. -/
def mintRequirements (ledger : Ledger) (minter recipient : Account) (amount : Amount) :
    List Requirement :=
  ledger.minterRequirements minter ++
    [⟨!ledger.isBlacklisted recipient, .refused .receiverBlacklisted⟩,
      ⟨amount.toNat ≤ ledger.allowanceOf minter, .refused .insufficientAllowance⟩,
      ⟨ledger.bank.issuance.toNat + amount.toNat < UInt64.size, .bank .overflow⟩,
      ⟨0 < (ledger.bank.balanceOf recipient).toNat + amount.toNat, .bank .belowMinimum⟩]

/-- `minter` has created an amount for `recipient`, and nothing else is different after it. -/
structure Mints (before : Ledger) (minter recipient : Account) (amount : Amount)
    (after : Ledger) : Prop where
  /-- The allowance is lower by the amount, and nothing was cut off at zero. -/
  spent : ∃ former later, before.minters[minter]? = some former ∧
    after.minters[minter]? = some later ∧ former.active = true ∧ later.active = true ∧
    later.allowance = former.allowance.saturatingSub amount ∧
    later.allowance.toNat + amount.toNat = former.allowance.toNat
  others : ∀ other, other ≠ minter → after.minters[other]? = before.minters[other]?
  issuance : after.bank.issuance.toNat = before.bank.issuance.toNat + amount.toNat
  balances : ∀ who, (after.bank.balanceOf who).toNat =
    (before.bank.balanceOf who).toNat + if recipient = who then amount.toNat else 0
  elsewhere : after = { before with minters := after.minters, bank := after.bank }

section Minting

variable {ledger : Ledger} {caller minter recipient : Account} {amount : Amount}

/-! ## What is required -/

theorem MinterObstacle.verdict {refusal : Refusal} (obstacle : ledger.MinterObstacle minter refusal)
    (others : List Requirement) :
    Requirement.verdict (ledger.minterRequirements minter ++ others) =
      .error (.refused refusal) := by
  cases obstacle with
  | pause paused => simp [minterRequirements, Requirement.verdict, paused]
  | noRecord running vacant => simp [minterRequirements, Requirement.verdict, running, vacant]
  | frozen running active frozen =>
    simp [minterRequirements, Requirement.verdict, running, active, frozen]

theorem Empowers.verdict {record : MinterRecord} (power : ledger.Empowers minter record)
    (others : List Requirement) :
    Requirement.verdict (ledger.minterRequirements minter ++ others) =
      Requirement.verdict others := by
  simp [minterRequirements, Requirement.verdict, power.running, power.active, power.not_frozen]

theorem Empowers.le_allowanceOf_iff {record : MinterRecord}
    (power : ledger.Empowers minter record) :
    amount.toNat ≤ ledger.allowanceOf minter ↔ amount ≤ record.allowance := by
  rw [power.allowanceOf, UInt64.le_iff_toNat_le]

theorem MintObstacle.verdict {error : CallError} (balanced : ledger.bank.Balanced)
    (obstacle : ledger.MintObstacle minter recipient amount error) :
    Requirement.verdict (ledger.mintRequirements minter recipient amount) = .error error := by
  rw [mintRequirements]
  cases obstacle with
  | minter obstacle => exact obstacle.verdict _
  | frozenRecipient power frozen =>
    rw [power.verdict]
    simp [Requirement.verdict, frozen]
  | allowance power free beyond =>
    have beyond := mt power.le_allowanceOf_iff.mp (UInt64.not_le.mpr beyond)
    rw [power.verdict]
    simp [Requirement.verdict, free, beyond]
  | bank power free within refused =>
    have within := power.le_allowanceOf_iff.mpr within
    -- Over a balanced bank the refusal tells which of the last two requirements is not met.
    rw [balanced.mint_eq] at refused
    rw [power.verdict]
    simp only [Requirement.verdict, free, within, Bool.not_false, decide_true, if_true,
      decide_eq_true_eq]
    split at refused
    · next fits =>
      split at refused
      · contradiction
      · next empty => rw [if_pos fits, if_neg empty, ← Except.error.inj refused]
    · next full => rw [if_neg full, ← Except.error.inj refused]

theorem Permits.mint_verdict
    (permitted : ledger.Permits caller (.minted minter recipient amount)) :
    Requirement.verdict (ledger.mintRequirements minter recipient amount) = .ok () := by
  obtain ⟨rfl, free, ⟨record, power, within⟩, room⟩ := permitted
  have within := power.le_allowanceOf_iff.mpr within
  rw [mintRequirements, power.verdict]
  simp [Requirement.verdict, free, within, room.issuance_fits, room.not_empty]

/-- The reply to minting is the verdict on what it requires. -/
theorem reply_mint (balanced : ledger.bank.Balanced) :
    (ledger.dispatch (.signed minter) (.mint recipient amount)).reply =
      Requirement.verdict (ledger.mintRequirements minter recipient amount) := by
  apply reply_dispatch_eq_of_judge
  · intro event judged
    exact (Call.judge_mint_eq_ok_iff.mp judged).2.mint_verdict
  · intro error judged
    exact (Call.judge_mint_eq_error_iff.mp judged).verdict balanced

theorem permits_minted_iff (balanced : ledger.bank.Balanced) :
    ledger.Permits minter (.minted minter recipient amount) ↔
      ledger.paused = false ∧
      (∃ record, ledger.minters[minter]? = some record ∧ record.active = true ∧
        amount ≤ record.allowance) ∧
      ledger.isBlacklisted minter = false ∧ ledger.isBlacklisted recipient = false ∧
      ledger.bank.issuance.toNat + amount.toNat < UInt64.size ∧
      0 < (ledger.bank.balanceOf recipient).toNat + amount.toNat := by
  constructor
  · rintro ⟨_, free, ⟨record, power, within⟩, room⟩
    obtain ⟨found, active⟩ := power.getElem?_minters
    exact ⟨power.running, ⟨record, found, active, within⟩, power.not_frozen, free,
      balanced.canMint_iff.mp room⟩
  · rintro ⟨running, ⟨record, found, active, within⟩, unfrozen, free, room⟩
    have power : ledger.Empowers minter record :=
      ⟨running, activeMinter?_eq_some_iff.mpr ⟨found, active⟩, unfrozen⟩
    exact ⟨rfl, free, ⟨record, power, within⟩, balanced.canMint_iff.mpr room⟩

/-! ## What is done -/

theorem Permits.mints (permitted : ledger.Permits caller (.minted minter recipient amount)) :
    ledger.Mints minter recipient amount (ledger.apply (.minted minter recipient amount)) where
  spent := by
    obtain ⟨former, later, before, after, same, lower⟩ := permitted.spends
    obtain ⟨rfl, _, ⟨record, power, _⟩, _⟩ := permitted
    obtain ⟨found, active⟩ := power.getElem?_minters
    obtain rfl : former = record := Option.some.inj (before.symm.trans found)
    exact ⟨former, later, before, after, active, same.trans active,
      Amount.eq_saturatingSub_of_add_eq lower, lower⟩
  others other apart := getElem?_minters_apply_of_ne apart.symm
  issuance := permitted.2.2.2.toNat_issuance
  balances := permitted.2.2.2.toNat_balanceOf
  elsewhere := rfl

end Minting

/-- Minting moves exactly the amount from the allowance to the recipient, or fails with its first
unmet requirement. -/
theorem minting_outcome (ledger : Ledger) (balanced : ledger.bank.Balanced)
    (minter recipient : Account) (amount : Amount) :
    let outcome := ledger.dispatch (.signed minter) (.mint recipient amount)
    outcome.reply = Requirement.verdict (ledger.mintRequirements minter recipient amount) ∧
    (outcome.reply = .ok () ↔
      ledger.paused = false ∧
      (∃ record, ledger.minters[minter]? = some record ∧ record.active = true ∧
        amount ≤ record.allowance) ∧
      ledger.isBlacklisted minter = false ∧ ledger.isBlacklisted recipient = false ∧
      ledger.bank.issuance.toNat + amount.toNat < UInt64.size ∧
      0 < (ledger.bank.balanceOf recipient).toNat + amount.toNat) ∧
    (outcome.reply = .ok () →
      outcome.events = [.minted minter recipient amount] ∧ outcome.log = [] ∧
      ledger.Mints minter recipient amount outcome.ledger) ∧
    (∀ error, outcome.reply = .error error →
      outcome.events = [] ∧ outcome.log = [] ∧ outcome.ledger = ledger) := by
  intro outcome
  refine ⟨reply_mint balanced, reply_mint_eq_ok_iff.trans (permits_minted_iff balanced), ?_, ?_⟩
  · intro succeeded
    have permitted := reply_mint_eq_ok_iff.mp succeeded
    have done : outcome = _ := dispatch_mint_of_permits permitted
    rw [done]
    exact ⟨rfl, rfl, permitted.mints⟩
  · intro error failed
    have dropped : outcome = _ := dispatch_of_judge_error (reply_dispatch_eq_error_iff.mp failed)
    rw [dropped]
    exact ⟨rfl, rfl, rfl⟩

open SampleHost in
/-- The minter creates 40 for itself; of several reasons against a mint the pause comes first. -/
theorem minting_outcome_of_own_account_and_of_refusals :
    let outcome := firstLedger.dispatch (.signed minter) (.mint minter 40)
    let stopped : Ledger := { firstLedger with paused := true, blacklist := .ofList [minter] }
    let halted := stopped.dispatch (.signed minter) (.mint bob 101)
    firstLedger.bank.Balanced ∧ outcome.reply = .ok () ∧
      firstLedger.Mints minter minter 40 outcome.ledger ∧
      (firstLedger.dispatch (.signed minter) (.mint charlie 0)).reply =
        .error (.bank .belowMinimum) ∧
      halted.reply = .error (.refused .mintingPaused) ∧ halted.events = [] ∧
      halted.ledger = stopped := by
  intro outcome stopped halted
  have balanced : firstLedger.bank.Balanced := rfl
  obtain ⟨verdict, _, done, _⟩ := minting_outcome firstLedger balanced minter minter 40
  obtain ⟨refused, _⟩ := minting_outcome firstLedger balanced minter charlie 0
  obtain ⟨paused, _, _, dropped⟩ := minting_outcome stopped balanced minter bob 101
  have succeeded : outcome.reply = .ok () := verdict.trans rfl
  have failed : halted.reply = .error (.refused .mintingPaused) := paused.trans rfl
  obtain ⟨events, _, kept⟩ := dropped _ failed
  exact ⟨balanced, succeeded, (done succeeded).2.2, refused.trans rfl, failed, events, kept⟩

end Ledger

end Stablecoin
