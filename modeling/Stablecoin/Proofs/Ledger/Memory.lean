import Stablecoin.Proofs.Ledger.Records

/-! # What events tell about the ledger

Much of what a ledger stores is what the last event about it says: who sits in a seat, whether an
account is frozen, which minter a controller is in charge of, and whether a minter has a record.
Such a part can be read off the history of events, without the ledger that they led to.
-/

namespace Stablecoin

/-- What the last event of a history to say something says, or else what held at first. -/
def lastWord {β : Type} (tells : Event → Option β) (history : List Event) (first : β) : β :=
  (history.findSomeRev? tells).getD first

theorem lastWord_cons {β : Type} (tells : Event → Option β) (event : Event) (rest : List Event)
    (first : β) :
    lastWord tells (event :: rest) first = lastWord tells rest ((tells event).getD first) := by
  rw [lastWord, lastWord, List.findSomeRev?]
  cases rest.findSomeRev? tells <;> rfl

namespace Event

/-- Whom an event puts into a seat, or that it vacates the seat, when it is about this seat. -/
def seats? (seat : Seat) : Event → Option (Option Account)
  | .ownershipOffered _ candidate => if seat = .pendingOwner then some (some candidate) else none
  | .ownershipAccepted _ owner =>
      match seat with
      | .owner => some (some owner)
      | .pendingOwner => some none
      | .office _ => none
  | .appointed office _ holder => if seat = .office office then some (some holder) else none
  | _ => none

/-- The minter that an event puts a controller in charge of, or that it takes its minter away, when
it is about this controller. -/
def charges? (controller : Account) : Event → Option (Option Account)
  | .controllerAssigned assigned minter =>
      if assigned = controller then some (some minter) else none
  | .controllerRemoved removed _ => if removed = controller then some none else none
  | _ => none

/-- Whether an account is frozen after an event, when the event freezes or frees it. -/
def freezes? (who : Account) : Event → Option Bool
  | .blacklisted account => if account = who then some true else none
  | .unblacklisted account => if account = who then some false else none
  | _ => none

/-- Whether a minter has a record after an event, when the event grants it one or takes it away. -/
def enlists? (minter : Account) : Event → Option Bool
  | .minterConfigured _ configured _ => if configured = minter then some true else none
  | .minterRemoved _ removed => if removed = minter then some false else none
  | _ => none

end Event

namespace Ledger

variable {β : Type} {part : Ledger → β} {tells : Event → Option β}

/-- A part of the ledger is what events tell about it. -/
def Tracks (part : Ledger → β) (tells : Event → Option β) : Prop :=
  ∀ (ledger : Ledger) (event : Event),
    part (ledger.apply event) = (tells event).getD (part ledger)

section Step

variable {ledger : Ledger} {event : Event}

theorem Tracks.apply_of_told (tracks : Tracks part tells) {word : β}
    (told : tells event = some word) : part (ledger.apply event) = word := by
  rw [tracks, told, Option.getD_some]

theorem Tracks.apply_of_silent (tracks : Tracks part tells) (silent : tells event = none) :
    part (ledger.apply event) = part ledger := by
  rw [tracks, silent, Option.getD_none]

end Step

/-- What events tell about a part can be read off their history. -/
theorem Tracks.replay (tracks : Tracks part tells) (ledger : Ledger) (history : List Event) :
    part (ledger.replay history) = lastWord tells history (part ledger) := by
  induction history generalizing ledger with
  | nil => rfl
  | cons event rest ih =>
    rw [lastWord_cons, ← tracks]
    exact ih (ledger.apply event)

theorem tracks_holder (seat : Seat) : Tracks (·.roles.holder seat) (·.seats? seat) := by
  intro ledger event
  cases event with
  | ownershipOffered owner candidate =>
    simp only [apply, assign, Roles.holder_assign, Event.seats?, eq_comm (a := seat)]
    split <;> rfl
  | ownershipAccepted previous owner =>
    simp only [apply, assign, Roles.holder_assign, Event.seats?]
    cases seat <;> rfl
  | appointed office previous holder =>
    simp only [apply, assign, Roles.holder_assign, Event.seats?, eq_comm (a := seat)]
    split <;> rfl
  | _ => rfl

theorem tracks_isBlacklisted (who : Account) :
    Tracks (·.isBlacklisted who) (·.freezes? who) := by
  intro ledger event
  have same : ∀ account : Account, (compare account who == .eq) = decide (account = who) := by
    intro account
    rw [Bool.eq_iff_iff, beq_iff_eq, Std.LawfulEqCmp.compare_eq_iff_eq, decide_eq_true_eq]
  cases event with
  | blacklisted account =>
    simp only [apply, isBlacklisted, Event.freezes?, Std.ExtTreeSet.contains_insert, same]
    split
    · next own => rw [decide_eq_true own, Bool.true_or, Option.getD_some]
    · next other => rw [decide_eq_false other, Bool.false_or, Option.getD_none]
  | unblacklisted account =>
    simp only [apply, isBlacklisted, Event.freezes?, Std.ExtTreeSet.contains_erase, bne, same]
    split
    · next own => rw [decide_eq_true own, Bool.not_true, Bool.false_and, Option.getD_some]
    · next other => rw [decide_eq_false other, Bool.not_false, Bool.true_and, Option.getD_none]
  | _ => rfl

theorem tracks_controller (controller : Account) :
    Tracks (·.controllers[controller]?) (·.charges? controller) := by
  intro ledger event
  cases event with
  | controllerAssigned assigned minter =>
    simp only [apply, Event.charges?, Std.ExtTreeMap.getElem?_insert,
      Std.LawfulEqCmp.compare_eq_iff_eq]
    split <;> rfl
  | controllerRemoved removed minter =>
    simp only [apply, Event.charges?, Std.ExtTreeMap.getElem?_erase,
      Std.LawfulEqCmp.compare_eq_iff_eq]
    split <;> rfl
  | _ => rfl

/-- Spending from a record does not remove it. -/
theorem tracks_record (minter : Account) :
    Tracks (·.minters[minter]?.isSome) (·.enlists? minter) := by
  intro ledger event
  dsimp only
  rw [getElem?_minters_apply]
  cases event with
  | minterConfigured controller configured allowance =>
    simp only [Event.updateRecord, Event.enlists?]
    split <;> rfl
  | minterRemoved controller removed =>
    simp only [Event.updateRecord, Event.enlists?]
    split <;> rfl
  | minted spender recipient amount =>
    simp only [Event.updateRecord, Event.enlists?]
    split
    · exact Option.isSome_map
    · rfl
  | _ => rfl

end Ledger

end Stablecoin
