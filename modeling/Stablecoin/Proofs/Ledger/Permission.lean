import Stablecoin.Proofs.Ledger.Judgement

/-! # The events that a ledger permits

Every event tells which call caused it, so a successful call is known by its event.
`Ledger.Permits` states when an account may cause an event: who it must be, what the ledger must
hold, and that the event names what it displaces. `Call.judge_eq_ok_iff` says that these conditions
are exactly those under which the call goes through, and with `Ledger.dispatch_of_judge_ok` this is
all that a successful call does.
-/

namespace Stablecoin

/-- The call that an event records. -/
def Event.call : Event → Call
  | .ownershipOffered _ candidate => .offerOwnership candidate
  | .ownershipAccepted _ _ => .acceptOwnership
  | .appointed office _ holder => .appoint office holder
  | .blacklisted account => .blacklist account
  | .unblacklisted account => .unblacklist account
  | .paused => .pause
  | .unpaused => .unpause
  | .controllerAssigned controller minter => .assignController controller minter
  | .controllerRemoved controller _ => .removeController controller
  | .minterConfigured _ minter allowance => .configureMinter minter allowance
  | .minterRemoved _ minter => .removeMinter minter
  | .minted _ recipient amount => .mint recipient amount
  | .burned _ amount => .burn amount

theorem Event.eq_minted_of_call {event : Event} {recipient : Account} {amount : Amount}
    (same : event.call = .mint recipient amount) :
    ∃ minter, event = .minted minter recipient amount := by
  cases event <;> cases same
  exact ⟨_, rfl⟩

theorem Event.eq_burned_of_call {event : Event} {amount : Amount}
    (same : event.call = .burn amount) : ∃ minter, event = .burned minter amount := by
  cases event <;> cases same
  exact ⟨_, rfl⟩

namespace Ledger

/-- An account may move value as a minter: nothing is paused, and its record is active and it is
not frozen. -/
structure Empowers (ledger : Ledger) (minter : Account) (record : MinterRecord) : Prop where
  running : ledger.paused = false
  active : ledger.activeMinter? minter = some record
  not_frozen : ledger.isBlacklisted minter = false

/-- A call with this event may be made by `caller`; what it displaces is named as the ledger has it.
-/
def Permits (ledger : Ledger) (caller : Account) : Event → Prop
  | .ownershipOffered owner _ => ledger.roles.owner = some caller ∧ owner = caller
  | .ownershipAccepted previous owner =>
      ledger.roles.pendingOwner = some caller ∧ owner = caller ∧ previous = ledger.roles.owner
  | .appointed office previous _ =>
      ledger.roles.owner = some caller ∧ previous = ledger.roles.holder (.office office)
  | .blacklisted account =>
      ledger.roles.blacklister = some caller ∧ ledger.isBlacklisted account = false
  | .unblacklisted account =>
      ledger.roles.blacklister = some caller ∧ ledger.isBlacklisted account = true
  | .paused | .unpaused => ledger.roles.pauser = some caller
  | .controllerAssigned _ _ => ledger.roles.masterMinter = some caller
  | .controllerRemoved controller minter =>
      ledger.roles.masterMinter = some caller ∧ ledger.controllers[controller]? = some minter
  | .minterConfigured controller minter _ =>
      ledger.controllers[caller]? = some minter ∧ controller = caller ∧ ledger.paused = false
  | .minterRemoved controller minter =>
      ledger.controllers[caller]? = some minter ∧ controller = caller ∧ minter ∈ ledger.minters
  | .minted minter recipient amount =>
      minter = caller ∧ ledger.isBlacklisted recipient = false ∧
        (∃ record, ledger.Empowers caller record ∧ amount ≤ record.allowance) ∧
        ledger.bank.CanMint recipient amount
  | .burned minter amount =>
      minter = caller ∧ (∃ record, ledger.Empowers caller record) ∧
        ledger.bank.CanBurn caller amount

theorem requireMinter_eq_ok_iff_empowers {ledger : Ledger} {minter : Account}
    {record : MinterRecord} :
    ledger.requireMinter minter = .ok record ↔ ledger.Empowers minter record := by
  rw [requireMinter_eq_ok_iff]
  exact ⟨fun ⟨running, active, free⟩ => ⟨running, active, free⟩,
    fun power => ⟨power.running, power.active, power.not_frozen⟩⟩

end Ledger

namespace Call

variable {ledger : Ledger} {caller : Account} {call : Call} {event : Event}

/-- A call that goes through deposits an event of its own, which the ledger permits its caller. -/
theorem permits_of_judge (judged : call.judge ledger caller = .ok event) :
    event.call = call ∧ ledger.Permits caller event := by
  cases call with
  | offerOwnership candidate =>
    obtain ⟨_, seated, ⟨⟩⟩ := bind_eq_ok_iff.mp judged
    exact ⟨rfl, Ledger.requireSeat_eq_ok_iff.mp seated, rfl⟩
  | acceptOwnership =>
    obtain ⟨_, seated, ⟨⟩⟩ := bind_eq_ok_iff.mp judged
    exact ⟨rfl, Ledger.requireSeat_eq_ok_iff.mp seated, rfl, rfl⟩
  | appoint office holder =>
    obtain ⟨_, seated, ⟨⟩⟩ := bind_eq_ok_iff.mp judged
    exact ⟨rfl, Ledger.requireSeat_eq_ok_iff.mp seated, rfl⟩
  | blacklist account =>
    obtain ⟨_, seated, judged⟩ := bind_eq_ok_iff.mp judged
    obtain ⟨_, free, ⟨⟩⟩ := bind_eq_ok_iff.mp judged
    exact ⟨rfl, Ledger.requireSeat_eq_ok_iff.mp seated, require_eq_ok_iff.mp free⟩
  | unblacklist account =>
    obtain ⟨_, seated, judged⟩ := bind_eq_ok_iff.mp judged
    obtain ⟨_, frozen, ⟨⟩⟩ := bind_eq_ok_iff.mp judged
    exact ⟨rfl, Ledger.requireSeat_eq_ok_iff.mp seated, require_eq_ok_iff.mp frozen⟩
  | pause =>
    obtain ⟨_, seated, ⟨⟩⟩ := bind_eq_ok_iff.mp judged
    exact ⟨rfl, Ledger.requireSeat_eq_ok_iff.mp seated⟩
  | unpause =>
    obtain ⟨_, seated, ⟨⟩⟩ := bind_eq_ok_iff.mp judged
    exact ⟨rfl, Ledger.requireSeat_eq_ok_iff.mp seated⟩
  | assignController controller minter =>
    obtain ⟨_, seated, ⟨⟩⟩ := bind_eq_ok_iff.mp judged
    exact ⟨rfl, Ledger.requireSeat_eq_ok_iff.mp seated⟩
  | removeController controller =>
    obtain ⟨_, seated, judged⟩ := bind_eq_ok_iff.mp judged
    obtain ⟨minter, found, ⟨⟩⟩ := bind_eq_ok_iff.mp judged
    exact ⟨rfl, Ledger.requireSeat_eq_ok_iff.mp seated,
      Ledger.requireController_eq_ok_iff.mp found⟩
  | configureMinter minter allowance =>
    obtain ⟨_, controls, judged⟩ := bind_eq_ok_iff.mp judged
    obtain ⟨_, running, ⟨⟩⟩ := bind_eq_ok_iff.mp judged
    exact ⟨rfl, Ledger.requireControl_eq_ok_iff.mp controls, rfl, require_eq_ok_iff.mp running⟩
  | removeMinter minter =>
    obtain ⟨_, controls, judged⟩ := bind_eq_ok_iff.mp judged
    obtain ⟨_, present, ⟨⟩⟩ := bind_eq_ok_iff.mp judged
    exact ⟨rfl, Ledger.requireControl_eq_ok_iff.mp controls, rfl, require_eq_ok_iff.mp present⟩
  | mint recipient amount =>
    obtain ⟨entry, powers, judged⟩ := bind_eq_ok_iff.mp judged
    obtain ⟨_, free, judged⟩ := bind_eq_ok_iff.mp judged
    obtain ⟨_, within, judged⟩ := bind_eq_ok_iff.mp judged
    obtain ⟨_, minted, ⟨⟩⟩ := bind_eq_ok_iff.mp judged
    have power := Ledger.requireMinter_eq_ok_iff_empowers.mp powers
    have room := (Bank.mint_eq_ok_iff.mp (mapError_eq_ok_iff.mp minted)).1
    exact ⟨rfl, rfl, require_eq_ok_iff.mp free, ⟨entry, power, require_eq_ok_iff.mp within⟩, room⟩
  | burn amount =>
    obtain ⟨entry, powers, judged⟩ := bind_eq_ok_iff.mp judged
    obtain ⟨_, burned, ⟨⟩⟩ := bind_eq_ok_iff.mp judged
    have power := Ledger.requireMinter_eq_ok_iff_empowers.mp powers
    have covered := (Bank.burn_eq_ok_iff.mp (mapError_eq_ok_iff.mp burned)).1
    exact ⟨rfl, rfl, ⟨entry, power⟩, covered⟩

/-- The call that an event records goes through, with this event, for a caller to whom the ledger
permits it. -/
theorem judge_of_permits (permitted : ledger.Permits caller event) :
    event.call.judge ledger caller = .ok event := by
  cases event with
  | ownershipOffered owner candidate =>
    obtain ⟨seated, rfl⟩ := permitted
    exact bind_eq_ok_iff.mpr ⟨(), Ledger.requireSeat_eq_ok_iff.mpr seated, rfl⟩
  | ownershipAccepted previous owner =>
    obtain ⟨seated, rfl, rfl⟩ := permitted
    exact bind_eq_ok_iff.mpr ⟨(), Ledger.requireSeat_eq_ok_iff.mpr seated, rfl⟩
  | appointed office previous holder =>
    obtain ⟨seated, rfl⟩ := permitted
    exact bind_eq_ok_iff.mpr ⟨(), Ledger.requireSeat_eq_ok_iff.mpr seated, rfl⟩
  | blacklisted account =>
    obtain ⟨seated, free⟩ := permitted
    refine bind_eq_ok_iff.mpr ⟨(), Ledger.requireSeat_eq_ok_iff.mpr seated, ?_⟩
    exact bind_eq_ok_iff.mpr ⟨(), require_eq_ok_iff.mpr free, rfl⟩
  | unblacklisted account =>
    obtain ⟨seated, frozen⟩ := permitted
    refine bind_eq_ok_iff.mpr ⟨(), Ledger.requireSeat_eq_ok_iff.mpr seated, ?_⟩
    exact bind_eq_ok_iff.mpr ⟨(), require_eq_ok_iff.mpr frozen, rfl⟩
  | paused =>
    exact bind_eq_ok_iff.mpr ⟨(), Ledger.requireSeat_eq_ok_iff.mpr permitted, rfl⟩
  | unpaused =>
    exact bind_eq_ok_iff.mpr ⟨(), Ledger.requireSeat_eq_ok_iff.mpr permitted, rfl⟩
  | controllerAssigned controller minter =>
    exact bind_eq_ok_iff.mpr ⟨(), Ledger.requireSeat_eq_ok_iff.mpr permitted, rfl⟩
  | controllerRemoved controller minter =>
    obtain ⟨seated, found⟩ := permitted
    refine bind_eq_ok_iff.mpr ⟨(), Ledger.requireSeat_eq_ok_iff.mpr seated, ?_⟩
    exact bind_eq_ok_iff.mpr ⟨minter, Ledger.requireController_eq_ok_iff.mpr found, rfl⟩
  | minterConfigured controller minter allowance =>
    obtain ⟨controls, rfl, running⟩ := permitted
    refine bind_eq_ok_iff.mpr ⟨(), Ledger.requireControl_eq_ok_iff.mpr controls, ?_⟩
    exact bind_eq_ok_iff.mpr ⟨(), require_eq_ok_iff.mpr running, rfl⟩
  | minterRemoved controller minter =>
    obtain ⟨controls, rfl, present⟩ := permitted
    refine bind_eq_ok_iff.mpr ⟨(), Ledger.requireControl_eq_ok_iff.mpr controls, ?_⟩
    exact bind_eq_ok_iff.mpr ⟨(), require_eq_ok_iff.mpr present, rfl⟩
  | minted minter recipient amount =>
    obtain ⟨rfl, free, ⟨entry, power, within⟩, room⟩ := permitted
    have empowered := Ledger.requireMinter_eq_ok_iff_empowers.mpr power
    have minted := Bank.mint_eq_ok_iff.mpr ⟨room, rfl⟩
    refine bind_eq_ok_iff.mpr ⟨entry, empowered, ?_⟩
    refine bind_eq_ok_iff.mpr ⟨(), require_eq_ok_iff.mpr free, ?_⟩
    refine bind_eq_ok_iff.mpr ⟨(), require_eq_ok_iff.mpr within, ?_⟩
    exact bind_eq_ok_iff.mpr ⟨_, mapError_eq_ok_iff.mpr minted, rfl⟩
  | burned minter amount =>
    obtain ⟨rfl, ⟨entry, power⟩, covered⟩ := permitted
    have empowered := Ledger.requireMinter_eq_ok_iff_empowers.mpr power
    have burned := Bank.burn_eq_ok_iff.mpr ⟨covered, rfl⟩
    refine bind_eq_ok_iff.mpr ⟨entry, empowered, ?_⟩
    exact bind_eq_ok_iff.mpr ⟨_, mapError_eq_ok_iff.mpr burned, rfl⟩

/-- A call goes through exactly with the events of its own that the ledger permits its caller. -/
theorem judge_eq_ok_iff :
    call.judge ledger caller = .ok event ↔ event.call = call ∧ ledger.Permits caller event := by
  constructor
  · exact permits_of_judge
  · rintro ⟨rfl, permitted⟩
    exact judge_of_permits permitted

end Call

/-- What the ledger permits is done: the call goes through, deposits the event alone and leaves the
ledger that the event tells of. -/
theorem Ledger.dispatch_of_permits {ledger : Ledger} {caller : Account} {event : Event}
    (permitted : ledger.Permits caller event) :
    ledger.dispatch (.signed caller) event.call =
      ⟨.ok (), [event], (event.notice? caller).toList, ledger.apply event⟩ :=
  dispatch_of_judge_ok (Call.judge_of_permits permitted)

end Stablecoin
