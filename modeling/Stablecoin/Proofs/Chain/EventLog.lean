import Stablecoin.Proofs.Chain.Evolution
import Stablecoin.Proofs.Ledger.Records
import Stablecoin.SampleHost

/-! # The events tell everything

A call that succeeds deposits one event. The event names what it displaced, and applying it to the
ledger before the call gives the ledger after it, with amounts that are exact. All other commands
deposit nothing and change nothing, so replaying the events of a history over its first ledger gives
its last one.
-/

namespace Stablecoin

/-- What an event names as having been there before is what the ledger held. -/
def Event.Recalls (ledger : Ledger) : Event → Prop
  | .ownershipOffered owner _ => ledger.roles.owner = some owner
  | .ownershipAccepted previous owner =>
      ledger.roles.owner = previous ∧ ledger.roles.pendingOwner = some owner
  | .appointed office previous _ => ledger.roles.holder (.office office) = previous
  | .blacklisted account => account ∉ ledger.blacklist
  | .unblacklisted account => account ∈ ledger.blacklist
  | .controllerRemoved controller minter => ledger.controllers[controller]? = some minter
  | .minterConfigured controller minter _ => ledger.controllers[controller]? = some minter
  | .minterRemoved controller minter =>
      ledger.controllers[controller]? = some minter ∧ minter ∈ ledger.minters
  | .minted minter _ _ | .burned minter _ => minter ∈ ledger.minters
  | .paused | .unpaused | .controllerAssigned _ _ => True

/-- The amount of an event is what the ledgers before and after it differ by, as numbers. -/
def Event.MovesExactly (before after : Ledger) : Event → Prop
  | .minted minter recipient amount =>
      (∃ former later, before.minters[minter]? = some former ∧
        after.minters[minter]? = some later ∧ later.active = former.active ∧
        later.allowance.toNat + amount.toNat = former.allowance.toNat) ∧
      (after.bank.balanceOf recipient).toNat =
        (before.bank.balanceOf recipient).toNat + amount.toNat ∧
      after.bank.issuance.toNat = before.bank.issuance.toNat + amount.toNat
  | .burned minter amount =>
      (after.bank.balanceOf minter).toNat + amount.toNat =
        (before.bank.balanceOf minter).toNat ∧
      after.bank.issuance.toNat + amount.toNat = before.bank.issuance.toNat
  | _ => True

namespace Ledger.Permits

variable {ledger : Ledger} {caller : Account} {event : Event}

theorem recalls (permitted : ledger.Permits caller event) : event.Recalls ledger := by
  cases event with
  | ownershipOffered owner candidate =>
    obtain ⟨seated, rfl⟩ := permitted
    exact seated
  | ownershipAccepted previous owner =>
    obtain ⟨seated, rfl, rfl⟩ := permitted
    exact ⟨rfl, seated⟩
  | appointed office previous holder => exact permitted.2.symm
  | blacklisted account =>
    intro member
    rw [← isBlacklisted_iff, permitted.2] at member
    contradiction
  | unblacklisted account => exact isBlacklisted_iff.mp permitted.2
  | controllerRemoved controller minter => exact permitted.2
  | minterConfigured controller minter allowance =>
    obtain ⟨controls, rfl, _⟩ := permitted
    exact controls
  | minterRemoved controller minter =>
    obtain ⟨controls, rfl, present⟩ := permitted
    exact ⟨controls, present⟩
  | minted minter recipient amount =>
    obtain ⟨former, _, before, _⟩ := permitted.spends
    exact Std.ExtTreeMap.mem_iff_isSome_getElem?.mpr (Option.isSome_of_eq_some before)
  | burned minter amount =>
    obtain ⟨rfl, ⟨record, power⟩, _⟩ := permitted
    have before := (activeMinter?_eq_some_iff.mp power.active).1
    exact Std.ExtTreeMap.mem_iff_isSome_getElem?.mpr (Option.isSome_of_eq_some before)
  | _ => trivial

theorem movesExactly (permitted : ledger.Permits caller event) :
    event.MovesExactly ledger (ledger.apply event) := by
  cases event with
  | minted minter recipient amount =>
    have room := permitted.2.2.2
    exact ⟨permitted.spends, room.toNat_balance, room.toNat_issuance⟩
  | burned minter amount =>
    obtain ⟨rfl, _, covered⟩ := permitted
    exact ⟨covered.toNat_balance, covered.toNat_issuance⟩
  | _ => trivial

end Ledger.Permits

namespace Chain

/-- A command deposits an event that tells the call it made and all that the call changed. -/
structure Logs (chain : Chain) (command : Command) (event : Event) : Prop where
  called : command.call? = some event.call
  events : (chain.step command).events = [event]
  recalls : event.Recalls chain.ledger
  ledger : (chain.step command).chain.ledger = chain.ledger.apply event
  exactly : event.MovesExactly chain.ledger (chain.step command).chain.ledger

variable {chain : Chain} {command : Command}

theorem Advances.logs {signer : Account} {event : Event}
    (advances : chain.Advances command signer event) : chain.Logs command event where
  called := advances.called
  events := advances.events
  recalls := advances.permitted.recalls
  ledger := advances.ledger
  exactly := by
    rw [advances.ledger]
    exact advances.permitted.movesExactly

end Chain

end Stablecoin
