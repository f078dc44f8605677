import Stablecoin.Action

/-! # Events

A successful call deposits exactly one event. An event names the accounts involved, also those that
the change displaced, so that the history of events alone tells how the ledger came about.
-/

namespace Stablecoin

inductive Event
  | ownershipOffered (owner candidate : Account)
  | ownershipAccepted (previous : Option Account) (owner : Account)
  | appointed (office : Office) (previous : Option Account) (holder : Account)
  | blacklisted (account : Account)
  | unblacklisted (account : Account)
  /-- The pauser paused the ledger, which may have been paused already. -/
  | paused
  /-- The pauser restarted the ledger, which may have been running already. -/
  | unpaused
  | controllerAssigned (controller minter : Account)
  | controllerRemoved (controller minter : Account)
  | minterConfigured (controller minter : Account) (allowance : Amount)
  | minterRemoved (controller minter : Account)
  | minted (minter recipient : Account) (amount : Amount)
  | burned (minter : Account) (amount : Amount)
deriving DecidableEq, Repr

namespace Event

inductive Field
  | required (word : UInt64)
  | optional (word? : Option UInt64)
deriving DecidableEq, Repr

def Field.shape : Field → FieldShape
  | required _ => .required
  | optional _ => .optional

def Field.word? : Field → Option UInt64
  | required word => some word
  | optional word? => word?

def action : Event → Action
  | ownershipOffered _ _ => .offerOwnership
  | ownershipAccepted _ _ => .acceptOwnership
  | appointed office _ _ => .appoint office
  | blacklisted _ => .blacklist
  | unblacklisted _ => .unblacklist
  | paused => .pause
  | unpaused => .unpause
  | controllerAssigned _ _ => .assignController
  | controllerRemoved _ _ => .removeController
  | minterConfigured _ _ _ => .configureMinter
  | minterRemoved _ _ => .removeMinter
  | minted _ _ _ => .mint
  | burned _ _ => .burn

def fields : Event → List Field
  | ownershipOffered owner candidate => [.required owner, .required candidate]
  | ownershipAccepted previous owner => [.optional previous, .required owner]
  | appointed _ previous holder => [.optional previous, .required holder]
  | blacklisted account | unblacklisted account => [.required account]
  | paused | unpaused => []
  | controllerAssigned controller minter | controllerRemoved controller minter
  | minterRemoved controller minter => [.required controller, .required minter]
  | minterConfigured controller minter allowance =>
      [.required controller, .required minter, .required allowance]
  | minted minter recipient amount => [.required minter, .required recipient, .required amount]
  | burned minter amount => [.required minter, .required amount]

/-- The event that records a given action with given fields, when these have its shapes. -/
def ofFields? (action : Action) (fields : List Field) : Option Event :=
  match fields with
  | [] =>
    match action with
    | .pause => some .paused
    | .unpause => some .unpaused
    | _ => none
  | [.required word] =>
    match action with
    | .blacklist => some (.blacklisted word)
    | .unblacklist => some (.unblacklisted word)
    | _ => none
  | [.optional previous, .required holder] =>
    match action with
    | .acceptOwnership => some (.ownershipAccepted previous holder)
    | .appoint office => some (.appointed office previous holder)
    | _ => none
  | [.required first, .required second] =>
    match action with
    | .offerOwnership => some (.ownershipOffered first second)
    | .assignController => some (.controllerAssigned first second)
    | .removeController => some (.controllerRemoved first second)
    | .removeMinter => some (.minterRemoved first second)
    | .burn => some (.burned first second)
    | _ => none
  | [.required first, .required second, .required third] =>
    match action with
    | .configureMinter => some (.minterConfigured first second third)
    | .mint => some (.minted first second third)
    | _ => none
  | _ => none

theorem ofFields?_eq_some_iff {action : Action} {fields : List Field} {event : Event} :
    ofFields? action fields = some event ↔ event.action = action ∧ event.fields = fields := by
  constructor
  · intro found
    unfold ofFields? at found
    repeat' split at found
    all_goals cases found
    all_goals exact ⟨rfl, rfl⟩
  · rintro ⟨rfl, rfl⟩
    cases event <;> rfl

/-- The fields of an event have the shapes that its action announces. -/
theorem map_shape_fields (event : Event) :
    event.fields.map Field.shape = event.action.eventFields.map (·.2) := by
  cases event <;> rfl

end Event

end Stablecoin
