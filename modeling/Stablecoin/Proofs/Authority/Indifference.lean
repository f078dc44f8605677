import Stablecoin.Proofs.Chain.Comparison
import Stablecoin.Proofs.Pause.Standstill
import Stablecoin.SampleHost

/-! # Administration is indifferent to the pause and the blacklist

Whoever administers the ledger is heard while it is paused, and a frozen account keeps the powers of
its seats. Among the calls only those that move value and the configuration of minters look at the
pause flag, and only those that move value, freeze or unfreeze look at the blacklist. So two runs of
the other calls that start from ledgers which differ in the flag, or in the blacklist, cannot be
told apart, and the difference never spreads.
-/

namespace Stablecoin

/-- The calls that look at the blacklist. -/
def Call.asksBlacklist : Call → Bool
  | .blacklist _ | .unblacklist _ | .mint _ _ | .burn _ => true
  | _ => false

namespace Ledger

/-- The ledgers differ at most in the pause flag. -/
def EqualButPause (left right : Ledger) : Prop := ∃ paused, right = { left with paused }

/-- The ledgers differ at most in which accounts are frozen. -/
def EqualButBlacklist (left right : Ledger) : Prop := ∃ blacklist, right = { left with blacklist }

variable {left right : Ledger}

-- Every event keeps the two differences, also those of the calls that look at what differs: it
-- writes the same to both ledgers.

theorem EqualButPause.apply (equal : left.EqualButPause right) (event : Event) :
    (left.apply event).EqualButPause (right.apply event) := by
  obtain ⟨paused, rfl⟩ := equal
  cases event with
  | paused => exact ⟨true, rfl⟩
  | unpaused => exact ⟨false, rfl⟩
  | _ => exact ⟨paused, rfl⟩

theorem EqualButBlacklist.apply (equal : left.EqualButBlacklist right) (event : Event) :
    (left.apply event).EqualButBlacklist (right.apply event) := by
  obtain ⟨blacklist, rfl⟩ := equal
  cases event with
  | blacklisted account => exact ⟨blacklist.insert account, rfl⟩
  | unblacklisted account => exact ⟨blacklist.erase account, rfl⟩
  | _ => exact ⟨blacklist, rfl⟩

end Ledger

namespace Call

variable {left right : Ledger} {caller : Account} {call : Call}

theorem judge_of_equalButPause (equal : left.EqualButPause right) (idle : ¬ call.needsRunning) :
    call.judge left caller = call.judge right caller := by
  obtain ⟨paused, rfl⟩ := equal
  cases call with
  | mint | burn | configureMinter => exact absurd rfl idle
  | _ => rfl

theorem judge_of_equalButBlacklist (equal : left.EqualButBlacklist right)
    (blind : ¬ call.asksBlacklist) : call.judge left caller = call.judge right caller := by
  obtain ⟨blacklist, rfl⟩ := equal
  cases call with
  | blacklist | unblacklist | mint | burn => exact absurd rfl blind
  | _ => rfl

theorem overlooks_pause (origin : Origin) (idle : ¬ call.needsRunning) :
    (Command.dispatch origin call).Overlooks Ledger.EqualButPause :=
  Chain.overlooks_dispatch (fun equal _ => judge_of_equalButPause equal idle)
    fun equal _ _ => equal.apply _

theorem overlooks_blacklist (origin : Origin) (blind : ¬ call.asksBlacklist) :
    (Command.dispatch origin call).Overlooks Ledger.EqualButBlacklist :=
  Chain.overlooks_dispatch (fun equal _ => judge_of_equalButBlacklist equal blind)
    fun equal _ _ => equal.apply _

end Call

namespace Chain

/-- Administrative calls cannot tell chains apart that differ only in the pause flag, or only in the
blacklist. -/
theorem administration_indifferent (asked : List (Origin × Call)) (left right : Chain) :
    let commands := asked.map fun each => Command.dispatch each.1 each.2
    (left.Alike Ledger.EqualButPause right → (∀ each ∈ asked, ¬ each.2.needsRunning) →
      List.Forall₂ (Step.Alike Ledger.EqualButPause) (left.run commands) (right.run commands) ∧
        (left.after commands).Alike Ledger.EqualButPause (right.after commands)) ∧
    (left.Alike Ledger.EqualButBlacklist right → (∀ each ∈ asked, ¬ each.2.asksBlacklist) →
      List.Forall₂ (Step.Alike Ledger.EqualButBlacklist) (left.run commands)
          (right.run commands) ∧
        (left.after commands).Alike Ledger.EqualButBlacklist (right.after commands)) := by
  intro commands
  constructor
  · intro alike idle
    have overlooked : ∀ command ∈ commands, command.Overlooks Ledger.EqualButPause :=
      List.forall_mem_map.mpr fun each asks => Call.overlooks_pause each.1 (idle each asks)
    exact ⟨run_alike overlooked alike, after_alike overlooked alike⟩
  · intro alike blind
    have overlooked : ∀ command ∈ commands, command.Overlooks Ledger.EqualButBlacklist :=
      List.forall_mem_map.mpr fun each asks => Call.overlooks_blacklist each.1 (blind each asks)
    exact ⟨run_alike overlooked alike, after_alike overlooked alike⟩

open SampleHost in
/-- Four calls have the same results on the sample host, on a paused one and on one whose owner is
frozen. -/
theorem administration_indifferent_of_paused_and_of_frozen :
    let asked : List (Origin × Call) :=
      [(.signed owner, .appoint .pauser alice), (.signed alice, .unpause), (.root, .pause),
        (.signed masterMinter, .assignController bob charlie)]
    let commands := asked.map fun each => Command.dispatch each.1 each.2
    let paused : Chain := ⟨{ firstLedger with paused := true }, otherDenomination⟩
    let frozen : Chain :=
      ⟨{ firstLedger with blacklist := .ofList [owner, masterMinter, alice] }, otherDenomination⟩
    List.Forall₂ (Step.Alike Ledger.EqualButPause) (firstChain.run commands)
        (paused.run commands) ∧
      List.Forall₂ (Step.Alike Ledger.EqualButBlacklist) (firstChain.run commands)
        (frozen.run commands) ∧
      (paused.after commands).ledger.paused = false ∧
      (frozen.after commands).ledger.roles.pauser = some alice := by
  intro asked commands paused frozen
  obtain ⟨despitePause, _⟩ := administration_indifferent asked firstChain paused
  obtain ⟨_, despiteFreeze⟩ := administration_indifferent asked firstChain frozen
  obtain ⟨samePaused, _⟩ := despitePause ⟨rfl, true, rfl⟩ (by decide)
  obtain ⟨sameFrozen, _⟩ := despiteFreeze ⟨rfl, _, rfl⟩ (by decide)
  exact ⟨samePaused, sameFrozen, rfl, rfl⟩

end Chain

end Stablecoin
