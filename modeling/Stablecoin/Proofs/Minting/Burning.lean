import Stablecoin.Proofs.Minting.Execution

/-! # What burning requires and what it does

Burning requires what every movement of value by a minter requires, and over a balanced bank no more
than that the balance covers the amount: the allowance plays no part in it, and the whole balance or
nothing at all may be burned. The amount is taken from the balance and from the issuance, exactly,
and nothing else changes. So burning undoes what minting did to the bank and leaves what it did to
the allowance.
-/

namespace Stablecoin.Ledger

/-- What it takes to destroy an amount. -/
def burnRequirements (ledger : Ledger) (minter : Account) (amount : Amount) : List Requirement :=
  ledger.minterRequirements minter ++
    [⟨amount.toNat ≤ (ledger.bank.balanceOf minter).toNat, .bank .fundsUnavailable⟩]

/-- `minter` has destroyed an amount of its own, and nothing else is different after it. -/
structure Burns (before : Ledger) (minter : Account) (amount : Amount) (after : Ledger) :
    Prop where
  issuance : after.bank.issuance.toNat + amount.toNat = before.bank.issuance.toNat
  balances : ∀ who, (after.bank.balanceOf who).toNat + (if minter = who then amount.toNat else 0) =
    (before.bank.balanceOf who).toNat
  elsewhere : after = { before with bank := after.bank }

/-- The allowance of `minter` is lower by an amount, and nothing else is different. -/
structure Spends (before : Ledger) (minter : Account) (amount : Amount) (after : Ledger) :
    Prop where
  spent : ∃ former later, before.minters[minter]? = some former ∧
    after.minters[minter]? = some later ∧ later.active = former.active ∧
    later.allowance.toNat + amount.toNat = former.allowance.toNat
  others : ∀ other, other ≠ minter → after.minters[other]? = before.minters[other]?
  elsewhere : after = { before with minters := after.minters }

section Burning

variable {ledger : Ledger} {caller minter : Account} {amount : Amount}

/-! ## What is required -/

theorem BurnObstacle.verdict {error : CallError} (balanced : ledger.bank.Balanced)
    (obstacle : ledger.BurnObstacle minter amount error) :
    Requirement.verdict (ledger.burnRequirements minter amount) = .error error := by
  rw [burnRequirements]
  cases obstacle with
  | minter obstacle => exact obstacle.verdict _
  | bank power refused =>
    rw [balanced.burn_eq] at refused
    rw [power.verdict]
    split at refused
    · contradiction
    · next short =>
      rw [UInt64.le_iff_toNat_le] at short
      simp [Requirement.verdict, short, ← Except.error.inj refused]

theorem Permits.burn_verdict (permitted : ledger.Permits caller (.burned minter amount)) :
    Requirement.verdict (ledger.burnRequirements minter amount) = .ok () := by
  obtain ⟨rfl, ⟨record, power⟩, covered⟩ := permitted
  have held := UInt64.le_iff_toNat_le.mp covered.balance_covers
  rw [burnRequirements, power.verdict]
  simp [Requirement.verdict, held]

/-- The reply to burning is the verdict on what it requires. -/
theorem reply_burn (balanced : ledger.bank.Balanced) :
    (ledger.dispatch (.signed minter) (.burn amount)).reply =
      Requirement.verdict (ledger.burnRequirements minter amount) := by
  apply reply_dispatch_eq_of_judge
  · intro event judged
    exact (Call.judge_burn_eq_ok_iff.mp judged).2.burn_verdict
  · intro error judged
    exact (Call.judge_burn_eq_error_iff.mp judged).verdict balanced

theorem permits_burned_iff (balanced : ledger.bank.Balanced) :
    ledger.Permits minter (.burned minter amount) ↔
      ledger.paused = false ∧
      (∃ record, ledger.minters[minter]? = some record ∧ record.active = true) ∧
      ledger.isBlacklisted minter = false ∧ amount ≤ ledger.bank.balanceOf minter := by
  constructor
  · rintro ⟨_, ⟨record, power⟩, covered⟩
    exact ⟨power.running, ⟨record, power.getElem?_minters⟩, power.not_frozen,
      covered.balance_covers⟩
  · rintro ⟨running, ⟨record, found⟩, free, covered⟩
    have power : ledger.Empowers minter record :=
      ⟨running, activeMinter?_eq_some_iff.mpr found, free⟩
    exact ⟨rfl, ⟨record, power⟩, balanced.canBurn_iff.mpr covered⟩

/-! ## What is done -/

theorem Permits.burns (permitted : ledger.Permits caller (.burned minter amount)) :
    ledger.Burns minter amount (ledger.apply (.burned minter amount)) := by
  obtain ⟨rfl, _, covered⟩ := permitted
  exact ⟨covered.toNat_issuance, covered.toNat_balanceOf, rfl⟩

/-! ## Burning what was minted -/

/-- Whoever creates an amount for itself can destroy it right after. -/
theorem Permits.burned_of_minted (permitted : ledger.Permits caller (.minted minter minter amount)) :
    (ledger.apply (.minted minter minter amount)).Permits minter (.burned minter amount) := by
  obtain ⟨rfl, _, ⟨record, power, _⟩, room⟩ := permitted
  exact ⟨rfl, exists_empowers_apply_minted_iff.mpr ⟨record, power⟩, room.canBurn_credited⟩

/-- When an amount was created and destroyed again, all that is left of it is the lower allowance. -/
theorem Permits.spends_of_minted (permitted : ledger.Permits caller (.minted minter minter amount)) :
    ledger.Spends minter amount
      ((ledger.apply (.minted minter minter amount)).apply (.burned minter amount)) where
  spent := permitted.spends
  others other apart := by
    change (ledger.apply (.minted minter minter amount)).minters[other]? = _
    exact getElem?_minters_apply_of_ne apart.symm
  elsewhere := by
    change { ledger with
      minters := (ledger.apply (.minted minter minter amount)).minters
      bank := debited (credited ledger.bank minter amount) minter amount } = _
    rw [Bank.debited_credited]
    rfl

end Burning

/-- Burning takes exactly the amount or fails with its first unmet requirement, and undoes a mint
but for the allowance. -/
theorem burning_outcome (ledger : Ledger) (balanced : ledger.bank.Balanced) (minter : Account)
    (amount : Amount) :
    let outcome := ledger.dispatch (.signed minter) (.burn amount)
    let minted := ledger.dispatch (.signed minter) (.mint minter amount)
    let burned := minted.ledger.dispatch (.signed minter) (.burn amount)
    outcome.reply = Requirement.verdict (ledger.burnRequirements minter amount) ∧
    (outcome.reply = .ok () ↔
      ledger.paused = false ∧
      (∃ record, ledger.minters[minter]? = some record ∧ record.active = true) ∧
      ledger.isBlacklisted minter = false ∧ amount ≤ ledger.bank.balanceOf minter) ∧
    (outcome.reply = .ok () →
      outcome.events = [.burned minter amount] ∧ outcome.log = [] ∧
      ledger.Burns minter amount outcome.ledger) ∧
    (∀ error, outcome.reply = .error error →
      outcome.events = [] ∧ outcome.log = [] ∧ outcome.ledger = ledger) ∧
    (minted.reply = .ok () →
      burned.reply = .ok () ∧ ledger.Spends minter amount burned.ledger) := by
  intro outcome minted burned
  refine ⟨reply_burn balanced, reply_burn_eq_ok_iff.trans (permits_burned_iff balanced),
    ?_, ?_, ?_⟩
  · intro succeeded
    have permitted := reply_burn_eq_ok_iff.mp succeeded
    have done : outcome = _ := dispatch_burn_of_permits permitted
    rw [done]
    exact ⟨rfl, rfl, permitted.burns⟩
  · intro error failed
    have dropped : outcome = _ := dispatch_of_judge_error (reply_dispatch_eq_error_iff.mp failed)
    rw [dropped]
    exact ⟨rfl, rfl, rfl⟩
  · intro succeeded
    have permitted := reply_mint_eq_ok_iff.mp succeeded
    have created : minted.ledger = ledger.apply (.minted minter minter amount) :=
      congrArg Outcome.ledger (dispatch_mint_of_permits permitted)
    have destroyed := dispatch_burn_of_permits permitted.burned_of_minted
    rw [← created] at destroyed
    have done : burned = _ := destroyed
    rw [done, created]
    exact ⟨rfl, permitted.spends_of_minted⟩

open SampleHost in
/-- The minter destroys all of its 50 but not 51, and creates and destroys 40. -/
theorem burning_outcome_of_whole_balance_and_of_refusals :
    let spent : Ledger :=
      { firstLedger with minters := .ofList [(minter, MinterRecord.mk 0 true), (charlie, .mk 0 true)] }
    let inactive : Ledger :=
      { firstLedger with minters := .ofList [(minter, MinterRecord.mk 100 false)] }
    let paused : Ledger := { inactive with paused := true }
    let minted := (firstLedger.dispatch (.signed minter) (.mint minter 40)).ledger
    let burned := (minted.dispatch (.signed minter) (.burn 40)).ledger
    firstLedger.bank.Balanced ∧
      spent.Burns minter 50 (spent.dispatch (.signed minter) (.burn 50)).ledger ∧
      (spent.dispatch (.signed minter) (.burn 51)).reply = .error (.bank .fundsUnavailable) ∧
      (spent.dispatch (.signed minter) (.burn 51)).ledger = spent ∧
      (spent.dispatch (.signed charlie) (.burn 0)).reply = .ok () ∧
      firstLedger.Spends minter 40 burned ∧ burned.minters[minter]? = some ⟨60, true⟩ ∧
      (inactive.dispatch (.signed minter) (.burn 51)).reply = .error (.refused .notMinter) ∧
      (paused.dispatch (.signed minter) (.burn 51)).reply = .error (.refused .mintingPaused) := by
  intro spent inactive paused minted burned
  have balanced : firstLedger.bank.Balanced := rfl
  obtain ⟨whole, _, done, _⟩ := burning_outcome spent balanced minter 50
  obtain ⟨tooMuch, _, _, dropped, _⟩ := burning_outcome spent balanced minter 51
  obtain ⟨nothing, _⟩ := burning_outcome spent balanced charlie 0
  obtain ⟨_, _, _, _, undone⟩ := burning_outcome firstLedger balanced minter 40
  obtain ⟨noRecord, _⟩ := burning_outcome inactive balanced minter 51
  obtain ⟨halted, _⟩ := burning_outcome paused balanced minter 51
  have failed : (spent.dispatch (.signed minter) (.burn 51)).reply =
      .error (.bank .fundsUnavailable) := tooMuch.trans rfl
  exact ⟨balanced, (done (whole.trans rfl)).2.2, failed, (dropped _ failed).2.2, nothing.trans rfl,
    (undone rfl).2, by decide +kernel, noRecord.trans rfl, halted.trans rfl⟩

end Stablecoin.Ledger
