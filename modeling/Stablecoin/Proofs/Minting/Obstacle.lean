import Stablecoin.Proofs.Ledger.Permission

/-! # Why minting and burning fail

A minter is stopped by the first thing that stands in its way: the pause, then that it has no active
record, then that it is frozen. What is minted must find a recipient who is not frozen and stay
within the allowance, and in the end the bank may still refuse. `Call.judge_mint_eq_error_iff` and
`Call.judge_burn_eq_error_iff` say that there are no other errors, and that the first obstacle is
the one that counts.
-/

namespace Stablecoin

namespace Ledger

/-- The first of the reasons for which an account cannot move value as a minter. -/
inductive MinterObstacle (ledger : Ledger) (minter : Account) : Refusal → Prop
  | pause : ledger.paused = true → MinterObstacle ledger minter .mintingPaused
  | noRecord : ledger.paused = false → ledger.activeMinter? minter = none →
      MinterObstacle ledger minter .notMinter
  | frozen {record : MinterRecord} : ledger.paused = false →
      ledger.activeMinter? minter = some record → ledger.isBlacklisted minter = true →
      MinterObstacle ledger minter .minterBlacklisted

/-- The first of the reasons for which a minter cannot create an amount for a recipient. -/
inductive MintObstacle (ledger : Ledger) (minter recipient : Account) (amount : Amount) :
    CallError → Prop
  | minter {refusal : Refusal} : ledger.MinterObstacle minter refusal →
      MintObstacle ledger minter recipient amount (.refused refusal)
  | frozenRecipient {record : MinterRecord} : ledger.Empowers minter record →
      ledger.isBlacklisted recipient = true →
      MintObstacle ledger minter recipient amount (.refused .receiverBlacklisted)
  | allowance {record : MinterRecord} : ledger.Empowers minter record →
      ledger.isBlacklisted recipient = false → record.allowance < amount →
      MintObstacle ledger minter recipient amount (.refused .insufficientAllowance)
  | bank {record : MinterRecord} {error : BankError} : ledger.Empowers minter record →
      ledger.isBlacklisted recipient = false → amount ≤ record.allowance →
      ledger.bank.mint recipient amount = .error error →
      MintObstacle ledger minter recipient amount (.bank error)

/-- The first of the reasons for which a minter cannot destroy an amount. -/
inductive BurnObstacle (ledger : Ledger) (minter : Account) (amount : Amount) : CallError → Prop
  | minter {refusal : Refusal} : ledger.MinterObstacle minter refusal →
      BurnObstacle ledger minter amount (.refused refusal)
  | bank {record : MinterRecord} {error : BankError} : ledger.Empowers minter record →
      ledger.bank.burn minter amount = .error error →
      BurnObstacle ledger minter amount (.bank error)

variable {ledger : Ledger} {minter recipient : Account} {amount : Amount} {error : CallError}

theorem requireMinter_eq_error_iff :
    ledger.requireMinter minter = .error error ↔
      ∃ refusal, error = .refused refusal ∧ ledger.MinterObstacle minter refusal := by
  constructor
  · intro failed
    obtain stopped | ⟨_, running, failed⟩ := bind_eq_error_iff.mp failed
    · obtain ⟨paused, rfl⟩ := require_eq_error_iff.mp stopped
      exact ⟨_, rfl, .pause (by simpa using paused)⟩
    have running := require_eq_ok_iff.mp running
    split at failed
    · next vacant => exact ⟨_, (Except.error.inj failed).symm, .noRecord running vacant⟩
    · next record active =>
      obtain stopped | ⟨_, _, failed⟩ := bind_eq_error_iff.mp failed
      · obtain ⟨frozen, rfl⟩ := require_eq_error_iff.mp stopped
        exact ⟨_, rfl, .frozen running active (by simpa using frozen)⟩
      · contradiction
  · rintro ⟨refusal, rfl, obstacle⟩
    cases obstacle with
    | pause paused => simp [requireMinter, require, paused, bind, Except.bind]
    | noRecord running vacant => simp [requireMinter, require, running, vacant, bind, Except.bind]
    | frozen running active frozen =>
      simp [requireMinter, require, running, active, frozen, bind, Except.bind]

end Ledger

namespace Call

variable {ledger : Ledger} {minter recipient : Account} {amount : Amount} {error : CallError}

theorem judge_mint_eq_ok_iff {event : Event} :
    (Call.mint recipient amount).judge ledger minter = .ok event ↔
      event = .minted minter recipient amount ∧
        ledger.Permits minter (.minted minter recipient amount) := by
  rw [judge_eq_ok_iff]
  constructor
  · rintro ⟨same, permitted⟩
    obtain ⟨spender, rfl⟩ := Event.eq_minted_of_call same
    obtain rfl : spender = minter := permitted.1
    exact ⟨rfl, permitted⟩
  · rintro ⟨rfl, permitted⟩
    exact ⟨rfl, permitted⟩

theorem judge_burn_eq_ok_iff {event : Event} :
    (Call.burn amount).judge ledger minter = .ok event ↔
      event = .burned minter amount ∧ ledger.Permits minter (.burned minter amount) := by
  rw [judge_eq_ok_iff]
  constructor
  · rintro ⟨same, permitted⟩
    obtain ⟨burner, rfl⟩ := Event.eq_burned_of_call same
    obtain rfl : burner = minter := permitted.1
    exact ⟨rfl, permitted⟩
  · rintro ⟨rfl, permitted⟩
    exact ⟨rfl, permitted⟩

/-- Minting fails with the first obstacle that it meets. -/
theorem judge_mint_eq_error_iff :
    (Call.mint recipient amount).judge ledger minter = .error error ↔
      ledger.MintObstacle minter recipient amount error := by
  constructor
  · intro failed
    obtain failed | ⟨record, found, failed⟩ := bind_eq_error_iff.mp failed
    · obtain ⟨refusal, rfl, obstacle⟩ := Ledger.requireMinter_eq_error_iff.mp failed
      exact .minter obstacle
    have power := Ledger.requireMinter_eq_ok_iff_empowers.mp found
    obtain stopped | ⟨_, free, failed⟩ := bind_eq_error_iff.mp failed
    · obtain ⟨frozen, rfl⟩ := require_eq_error_iff.mp stopped
      exact .frozenRecipient power (by simpa using frozen)
    have free := require_eq_ok_iff.mp free
    obtain stopped | ⟨_, within, failed⟩ := bind_eq_error_iff.mp failed
    · obtain ⟨beyond, rfl⟩ := require_eq_error_iff.mp stopped
      exact .allowance power free (UInt64.not_le.mp beyond)
    have within := require_eq_ok_iff.mp within
    obtain failed | ⟨_, _, failed⟩ := bind_eq_error_iff.mp failed
    · obtain ⟨_, refused, rfl⟩ := mapError_eq_error_iff.mp failed
      exact .bank power free within refused
    · contradiction
  · intro obstacle
    cases obstacle with
    | minter obstacle =>
      exact bind_eq_error_iff.mpr (.inl (Ledger.requireMinter_eq_error_iff.mpr ⟨_, rfl, obstacle⟩))
    | frozenRecipient power frozen =>
      have found := Ledger.requireMinter_eq_ok_iff_empowers.mpr power
      refine bind_eq_error_iff.mpr (.inr ⟨_, found, bind_eq_error_iff.mpr (.inl ?_)⟩)
      exact require_eq_error_iff.mpr ⟨by simp [frozen], rfl⟩
    | allowance power free beyond =>
      have found := Ledger.requireMinter_eq_ok_iff_empowers.mpr power
      refine bind_eq_error_iff.mpr (.inr ⟨_, found, bind_eq_error_iff.mpr (.inr ?_)⟩)
      refine ⟨(), require_eq_ok_iff.mpr free, bind_eq_error_iff.mpr (.inl ?_)⟩
      exact require_eq_error_iff.mpr ⟨UInt64.not_le.mpr beyond, rfl⟩
    | bank power free within refused =>
      have found := Ledger.requireMinter_eq_ok_iff_empowers.mpr power
      refine bind_eq_error_iff.mpr (.inr ⟨_, found, bind_eq_error_iff.mpr (.inr ?_)⟩)
      refine ⟨(), require_eq_ok_iff.mpr free, bind_eq_error_iff.mpr (.inr ?_)⟩
      refine ⟨(), require_eq_ok_iff.mpr within, bind_eq_error_iff.mpr (.inl ?_)⟩
      exact mapError_eq_error_iff.mpr ⟨_, refused, rfl⟩

/-- Burning fails with the first obstacle that it meets. -/
theorem judge_burn_eq_error_iff :
    (Call.burn amount).judge ledger minter = .error error ↔
      ledger.BurnObstacle minter amount error := by
  constructor
  · intro failed
    obtain failed | ⟨record, found, failed⟩ := bind_eq_error_iff.mp failed
    · obtain ⟨refusal, rfl, obstacle⟩ := Ledger.requireMinter_eq_error_iff.mp failed
      exact .minter obstacle
    have power := Ledger.requireMinter_eq_ok_iff_empowers.mp found
    obtain failed | ⟨_, _, failed⟩ := bind_eq_error_iff.mp failed
    · obtain ⟨_, refused, rfl⟩ := mapError_eq_error_iff.mp failed
      exact .bank power refused
    · contradiction
  · intro obstacle
    cases obstacle with
    | minter obstacle =>
      exact bind_eq_error_iff.mpr (.inl (Ledger.requireMinter_eq_error_iff.mpr ⟨_, rfl, obstacle⟩))
    | bank power refused =>
      have found := Ledger.requireMinter_eq_ok_iff_empowers.mpr power
      refine bind_eq_error_iff.mpr (.inr ⟨_, found, bind_eq_error_iff.mpr (.inl ?_)⟩)
      exact mapError_eq_error_iff.mpr ⟨_, refused, rfl⟩

end Call

namespace Ledger

variable {ledger : Ledger} {minter recipient : Account} {amount : Amount}

theorem reply_mint_eq_ok_iff :
    (ledger.dispatch (.signed minter) (.mint recipient amount)).reply = .ok () ↔
      ledger.Permits minter (.minted minter recipient amount) := by
  simp only [reply_dispatch_eq_ok_iff, Call.judge_mint_eq_ok_iff, exists_eq_left]

theorem reply_burn_eq_ok_iff :
    (ledger.dispatch (.signed minter) (.burn amount)).reply = .ok () ↔
      ledger.Permits minter (.burned minter amount) := by
  simp only [reply_dispatch_eq_ok_iff, Call.judge_burn_eq_ok_iff, exists_eq_left]

theorem dispatch_mint_of_permits
    (permitted : ledger.Permits minter (.minted minter recipient amount)) :
    ledger.dispatch (.signed minter) (.mint recipient amount) =
      ⟨.ok (), [.minted minter recipient amount], [],
        ledger.apply (.minted minter recipient amount)⟩ :=
  dispatch_of_permits permitted

theorem dispatch_burn_of_permits (permitted : ledger.Permits minter (.burned minter amount)) :
    ledger.dispatch (.signed minter) (.burn amount) =
      ⟨.ok (), [.burned minter amount], [], ledger.apply (.burned minter amount)⟩ :=
  dispatch_of_permits permitted

end Ledger

end Stablecoin
