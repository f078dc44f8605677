import Stablecoin.Proofs.Chain.Evolution
import Stablecoin.Proofs.Minting.Obstacle
import Stablecoin.SampleHost

/-! # Only calls that succeed change anything

A call may fail after it has written: minting lowers the allowance before it turns to the bank,
which may still refuse. What such a call wrote stays in its storage layer and is dropped with it, so
that the stored ledger never shows it. All that is not a call only looks at the ledger.
-/

namespace Stablecoin

theorem Bank.error_of_mint {bank : Bank} {who : Account} {amount : Amount} {error : BankError}
    (refused : bank.mint who amount = .error error) : error = .overflow ∨ error = .belowMinimum := by
  unfold Bank.mint at refused
  split at refused
  · split at refused
    · exact .inr (Except.error.inj refused).symm
    · contradiction
  · exact .inl (Except.error.inj refused).symm

namespace Ledger

variable {ledger : Ledger} {caller : Account}

/-- The ledger after `caller`, who has a given record, spent an amount and before the bank was
asked to create it. -/
def spentOnly (ledger : Ledger) (caller : Account) (record : MinterRecord) (amount : Amount) :
    Ledger :=
  { ledger with
    minters := ledger.minters.insert caller
      { record with allowance := record.allowance - amount } }

/-- When the bank refuses to create an amount, the allowance is lowered already. -/
theorem perform_mint_of_bank_error {recipient : Account} {amount : Amount} {error : BankError}
    (failed : (Call.mint recipient amount).judge ledger caller = .error (.bank error)) :
    ∃ record, ledger.Empowers caller record ∧ amount ≤ record.allowance ∧
      ledger.bank.mint recipient amount = .error error ∧
      (Call.mint recipient amount).perform caller ⟨ledger, [], []⟩ =
        (.error (.bank error), ⟨ledger.spentOnly caller record amount, [], []⟩) := by
  cases Call.judge_mint_eq_error_iff.mp failed with
  | bank power free within refused =>
    have found := requireMinter_eq_ok_iff_empowers.mpr power
    refine ⟨_, power, within, refused, ?_⟩
    simp only [Call.perform, Layered.read_bind, Layered.check_bind, Layered.write_bind,
      Layered.transact_bind, found, require, if_pos free, if_pos within, refused,
      Amount.saturatingSub_of_le within, spentOnly]

end Ledger

/-- The command is no call: it asks for something, or hands a packet on. -/
def Command.Observes : Command → Prop
  | .query _ | .check _ | .checkIntent _ | .validate _ _ | .receive _ _ | .send _ _ _ => True
  | _ => False

namespace Chain

/-- A call that fails leaves everything as it was, also when the bank refuses a mint whose allowance
was lowered. -/
theorem only_successful_calls_change_anything (chain : Chain) :
    (∀ origin call error, (chain.ledger.dispatch origin call).reply = .error error →
      chain.ledger.dispatch origin call = ⟨.error error, [], [], chain.ledger⟩) ∧
    (∀ caller recipient amount error,
      (chain.ledger.dispatch (.signed caller) (.mint recipient amount)).reply =
        .error (.bank error) →
      (error = .overflow ∨ error = .belowMinimum) ∧
      ∃ record, chain.ledger.Empowers caller record ∧ amount ≤ record.allowance ∧
        (Call.mint recipient amount).perform caller ⟨chain.ledger, [], []⟩ =
          (.error (.bank error), ⟨chain.ledger.spentOnly caller record amount, [], []⟩) ∧
        chain.ledger.dispatch (.signed caller) (.mint recipient amount) =
          ⟨.error (.bank error), [], [], chain.ledger⟩) ∧
    (∀ command : Command, command.Regular → ¬ chain.CarriesOut command →
      (chain.step command).chain.ledger = chain.ledger ∧ (chain.step command).events = [] ∧
        ∀ line ∈ (chain.step command).log, line.level ≠ "info") ∧
    ∀ command : Command, command.Observes →
      (chain.step command).chain = chain ∧ (chain.step command).events = [] := by
  have restored : ∀ origin call error,
      (chain.ledger.dispatch origin call).reply = .error error →
      chain.ledger.dispatch origin call = ⟨.error error, [], [], chain.ledger⟩ := by
    intro origin call error failed
    obtain ⟨caller, event, _, _, enacted⟩ | ⟨other, dropped⟩ :=
      chain.ledger.dispatch_cases origin call
    · rw [enacted.outcome] at failed
      contradiction
    · rw [dropped] at failed
      rw [dropped, Except.error.inj failed]
  refine ⟨restored, ?_, ?_, ?_⟩
  · intro caller recipient amount error failed
    obtain ⟨record, power, covered, refused, draft⟩ :=
      Ledger.perform_mint_of_bank_error (Ledger.reply_dispatch_eq_error_iff.mp failed)
    exact ⟨Bank.error_of_mint refused, record, power, covered, draft, restored _ _ _ failed⟩
  · intro command regular idle
    obtain ⟨signer, event, advances⟩ | rests := chain.step_cases regular
    · exact absurd advances.carriesOut idle
    · refine ⟨rests.ledger, rests.events, ?_⟩
      intro line member
      rw [rests.log line member]
      decide
  · intro command observes
    cases command with
    | query _ | check _ | checkIntent _ | validate _ _ | receive _ _ | send _ _ _ =>
      exact ⟨rfl, rfl⟩
    | _ => exact observes.elim

open SampleHost in
/-- A minter refused by a full bank has an allowance of 99 in the storage layer, and of 100 again
after. -/
theorem only_successful_calls_change_anything_of_refused_mints :
    let most : Amount := 18446744073709551615
    let full : Bank := { Bank.empty.withBalance alice most with issuance := most }
    let crowded : Chain := ⟨{ firstLedger with bank := full }, otherDenomination⟩
    let draft := crowded.ledger.spentOnly minter ⟨100, true⟩ 1
    (Call.mint bob 1).perform minter ⟨crowded.ledger, [], []⟩ =
      (.error (.bank .overflow), ⟨draft, [], []⟩) ∧
    draft.minters[minter]? = some ⟨99, true⟩ ∧
    crowded.ledger.dispatch (.signed minter) (.mint bob 1) =
      ⟨.error (.bank .overflow), [], [], crowded.ledger⟩ ∧
    firstLedger.dispatch (.signed minter) (.mint charlie 0) =
      ⟨.error (.bank .belowMinimum), [], [], firstLedger⟩ := by
  intro most full crowded draft
  obtain ⟨_, record, power, _, lowered, restored⟩ :=
    (only_successful_calls_change_anything crowded).2.1 minter bob 1 .overflow rfl
  obtain ⟨_, _, _, _, _, dropped⟩ :=
    (only_successful_calls_change_anything firstChain).2.1 minter charlie 0 .belowMinimum rfl
  have held : crowded.ledger.activeMinter? minter = some ⟨100, true⟩ := rfl
  obtain rfl : ⟨100, true⟩ = record := Option.some.inj (held.symm.trans power.active)
  exact ⟨lowered, by decide +kernel, restored, dropped⟩

end Chain

end Stablecoin
