import Stablecoin.Proofs.Ledger.Mediation
import Stablecoin.Proofs.Minting.Obstacle

/-! # Minting and burning go by the gate

Minting and burning make checks of their own for the pause and the blacklist and never ask the
gate. They rank these reasons as the gate does, though: minting is refused for the pause, for the
minter or for the recipient exactly when a transfer from the minter to the recipient would be
denied for the pause, for its sender or for its receiver, and burning when a movement out of the
minter's account would. Between the pause and the blacklist a call also asks whether there is an
active record, so the reasons that come later are compared for active minters. What succeeds, the
gate would have let through.
-/

namespace Stablecoin

namespace Ledger

section Comparison

variable {ledger : Ledger} {movement : Movement Account} {amount : Amount} {record : MinterRecord}
  {minter sender recipient receiver : Account}

/-! ## What the gate says of a movement with one sender -/

theorem evaluate_eq_error_iff {denial : Denial Account} :
    (ledger.evaluate movement).verdict = .error denial ↔
      movement.denial? ledger.gateView = some denial := by
  rw [verdict_evaluate, verdictOf_eq_error_iff]

theorem evaluate_eq_ok_iff :
    (ledger.evaluate movement).verdict = .ok () ↔
      ledger.paused = false ∧ ∀ who ∈ movement.parties, ledger.isBlacklisted who = false := by
  rw [verdict_evaluate, verdictOf_eq_ok_iff, Movement.denial?_eq_none_iff, gateView]

theorem evaluate_eq_paused_iff :
    (ledger.evaluate movement).verdict = .error .paused ↔ ledger.paused = true := by
  rw [evaluate_eq_error_iff, Movement.denial?_eq_paused_iff, gateView]

theorem evaluate_eq_cannotSend_iff (alone : movement.senders = [sender]) :
    (ledger.evaluate movement).verdict = .error (.cannotSend sender) ↔
      ledger.paused = false ∧ ledger.isBlacklisted sender = true := by
  rw [evaluate_eq_error_iff, Movement.denial?_eq_cannotSend_iff, alone, List.find?_singleton,
    Option.ite_none_right_eq_some]
  simp [gateView]

theorem evaluate_eq_cannotReceive_iff (alone : movement.senders = [sender])
    (received : movement.receivers = [receiver]) :
    (ledger.evaluate movement).verdict = .error (.cannotReceive receiver) ↔
      ledger.paused = false ∧ ledger.isBlacklisted sender = false ∧
        ledger.isBlacklisted receiver = true := by
  rw [evaluate_eq_error_iff, Movement.denial?_eq_cannotReceive_iff, alone, received,
    List.find?_singleton, Option.ite_none_right_eq_some]
  simp [gateView]

theorem checkIntent_send (sender receiver : Account) (value : Amount) :
    ledger.checkIntent (.send sender receiver controlled value) =
      ledger.evaluate ⟨.send, [sender], [receiver]⟩ := by
  simp [checkIntent, screen, Intent.denomination, Intent.movement]

/-! ## What minters are refused for -/

theorem minterObstacle_mintingPaused_iff :
    ledger.MinterObstacle minter .mintingPaused ↔ ledger.paused = true := by
  constructor
  · rintro ⟨paused⟩
    exact paused
  · exact .pause

theorem minterObstacle_minterBlacklisted_iff (active : ledger.activeMinter? minter = some record) :
    ledger.MinterObstacle minter .minterBlacklisted ↔
      ledger.paused = false ∧ ledger.isBlacklisted minter = true := by
  constructor
  · intro obstacle
    cases obstacle with
    | frozen running _ frozen => exact ⟨running, frozen⟩
  · rintro ⟨running, frozen⟩
    exact .frozen running active frozen

theorem mintObstacle_minter_iff {refusal : Refusal} (noRecipient : refusal ≠ .receiverBlacklisted)
    (noAllowance : refusal ≠ .insufficientAllowance) :
    ledger.MintObstacle minter recipient amount (.refused refusal) ↔
      ledger.MinterObstacle minter refusal := by
  constructor
  · intro obstacle
    cases obstacle with
    | minter obstacle => exact obstacle
    | frozenRecipient => contradiction
    | allowance => contradiction
  · exact .minter

theorem mintObstacle_receiverBlacklisted_iff (active : ledger.activeMinter? minter = some record) :
    ledger.MintObstacle minter recipient amount (.refused .receiverBlacklisted) ↔
      ledger.paused = false ∧ ledger.isBlacklisted minter = false ∧
        ledger.isBlacklisted recipient = true := by
  constructor
  · intro obstacle
    cases obstacle with
    | minter obstacle => cases obstacle
    | frozenRecipient power frozen => exact ⟨power.running, power.not_frozen, frozen⟩
  · rintro ⟨running, free, frozen⟩
    exact .frozenRecipient ⟨running, active, free⟩ frozen

theorem burnObstacle_minter_iff {refusal : Refusal} :
    ledger.BurnObstacle minter amount (.refused refusal) ↔
      ledger.MinterObstacle minter refusal := by
  constructor
  · rintro ⟨obstacle⟩
    exact obstacle
  · exact .minter

/-! ## What is let through -/

/-- Whoever mints could send to the recipient. -/
theorem evaluate_eq_ok_of_minted {operation : Operation}
    (minted : (ledger.dispatch (.signed minter) (.mint recipient amount)).reply = .ok ()) :
    (ledger.evaluate ⟨operation, [minter], [recipient]⟩).verdict = .ok () := by
  obtain ⟨_, free, ⟨_, power, _⟩, _⟩ := reply_mint_eq_ok_iff.mp minted
  simp [evaluate_eq_ok_iff, Movement.parties, power.running, power.not_frozen, free]

/-- Whoever burns could move value out of its account. -/
theorem evaluate_eq_ok_of_burned (alone : movement.senders = [minter])
    (nobody : movement.receivers = [])
    (burned : (ledger.dispatch (.signed minter) (.burn amount)).reply = .ok ()) :
    (ledger.evaluate movement).verdict = .ok () := by
  obtain ⟨_, ⟨_, power⟩, _⟩ := reply_burn_eq_ok_iff.mp burned
  simp [evaluate_eq_ok_iff, Movement.parties, alone, nobody, power.running, power.not_frozen]

end Comparison

/-- Minting and burning are refused for the pause or a frozen account exactly when the gate denies
the movement. -/
theorem minting_accords_with_gate (ledger : Ledger) (minter : Account) (amount : Amount) :
    (∀ (recipient : Account) (value : Amount),
      let minted := (ledger.dispatch (.signed minter) (.mint recipient amount)).reply
      let sent := (ledger.checkIntent (.send minter recipient controlled value)).verdict
      (minted = .error (.refused .mintingPaused) ↔ sent = .error .paused) ∧
      (∀ record, ledger.activeMinter? minter = some record →
        (minted = .error (.refused .minterBlacklisted) ↔ sent = .error (.cannotSend minter)) ∧
        (minted = .error (.refused .receiverBlacklisted) ↔
          sent = .error (.cannotReceive recipient))) ∧
      (minted = .ok () → sent = .ok ())) ∧
    ∀ movement : Movement Account, movement.senders = [minter] →
      let burned := (ledger.dispatch (.signed minter) (.burn amount)).reply
      let moved := (ledger.evaluate movement).verdict
      (burned = .error (.refused .mintingPaused) ↔ moved = .error .paused) ∧
      (∀ record, ledger.activeMinter? minter = some record →
        (burned = .error (.refused .minterBlacklisted) ↔ moved = .error (.cannotSend minter))) ∧
      (burned = .ok () → movement.receivers = [] → moved = .ok ()) := by
  constructor
  · intro recipient value minted sent
    simp only [minted, sent, reply_dispatch_eq_error_iff, Call.judge_mint_eq_error_iff,
      checkIntent_send]
    refine ⟨?_, ?_, evaluate_eq_ok_of_minted⟩
    · rw [mintObstacle_minter_iff (by decide) (by decide), minterObstacle_mintingPaused_iff,
        evaluate_eq_paused_iff]
    · intro record active
      constructor
      · rw [mintObstacle_minter_iff (by decide) (by decide),
          minterObstacle_minterBlacklisted_iff active, evaluate_eq_cannotSend_iff rfl]
      · rw [mintObstacle_receiverBlacklisted_iff active, evaluate_eq_cannotReceive_iff rfl rfl]
  · intro movement alone burned moved
    simp only [burned, moved, reply_dispatch_eq_error_iff, Call.judge_burn_eq_error_iff,
      burnObstacle_minter_iff]
    refine ⟨?_, ?_, fun done nobody => evaluate_eq_ok_of_burned alone nobody done⟩
    · rw [minterObstacle_mintingPaused_iff, evaluate_eq_paused_iff]
    · intro record active
      rw [minterObstacle_minterBlacklisted_iff active, evaluate_eq_cannotSend_iff alone]

open SampleHost in
/-- With the minter frozen, minting and burning are refused for it; with alice frozen, minting to
her. -/
theorem minting_accords_with_gate_of_frozen_parties :
    let frozenMinter : Ledger := { firstLedger with blacklist := .ofList [minter] }
    let frozenAlice : Ledger := { firstLedger with blacklist := .ofList [alice] }
    let record : MinterRecord := ⟨100, true⟩
    frozenMinter.activeMinter? minter = some record ∧
      frozenAlice.activeMinter? minter = some record ∧
      (frozenMinter.dispatch (.signed minter) (.mint minter 7)).reply =
        .error (.refused .minterBlacklisted) ∧
      (frozenMinter.dispatch (.signed minter) (.burn 7)).reply =
        .error (.refused .minterBlacklisted) ∧
      (frozenAlice.dispatch (.signed minter) (.mint alice 7)).reply =
        .error (.refused .receiverBlacklisted) ∧
      (frozenAlice.checkIntent (.send minter bob controlled 7)).verdict = .ok () ∧
      (frozenAlice.evaluate ⟨.send, [minter], []⟩).verdict = .ok () := by
  intro frozenMinter frozenAlice record
  have active : frozenMinter.activeMinter? minter = some record := by decide +kernel
  have alsoActive : frozenAlice.activeMinter? minter = some record := by decide +kernel
  obtain ⟨mintedFrozen, burnedFrozen⟩ := minting_accords_with_gate frozenMinter minter 7
  obtain ⟨minted, burned⟩ := minting_accords_with_gate frozenAlice minter 7
  obtain ⟨_, toItself, _⟩ := mintedFrozen minter 7
  obtain ⟨_, outFrozen, _⟩ := burnedFrozen ⟨.send, [minter], []⟩ rfl
  obtain ⟨_, toAlice, _⟩ := minted alice 7
  obtain ⟨_, _, toBob⟩ := minted bob 7
  obtain ⟨_, _, out⟩ := burned ⟨.send, [minter], []⟩ rfl
  refine ⟨active, alsoActive, (toItself record active).1.mpr ?_, (outFrozen record active).mpr ?_,
    (toAlice record alsoActive).2.mpr ?_, toBob ?_, out ?_ rfl⟩
  all_goals rfl

end Ledger

end Stablecoin
