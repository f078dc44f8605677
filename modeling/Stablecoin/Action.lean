import Stablecoin.Basic

/-! # The fifteen actions

An action is what a call asks for and an event records: each call names one action, and each event
was caused by one. The position of an action in `Action.all` is its public index, for the call and
for the event alike.
-/

namespace Stablecoin

/-- The offices that the owner fills. -/
inductive Office
  /-- Assigns controllers to minters. -/
  | masterMinter
  /-- Stops and restarts the movement of value. -/
  | pauser
  /-- Freezes and releases accounts. -/
  | blacklister
deriving DecidableEq, Repr

/-- The kinds of change that accounts can make to the ledger. -/
inductive Action
  | offerOwnership
  | acceptOwnership
  | appoint (office : Office)
  | blacklist
  | unblacklist
  | pause
  | unpause
  | assignController
  | removeController
  | configureMinter
  | removeMinter
  | mint
  | burn
deriving DecidableEq, Repr

/-- What an event field may hold: always a word, or a word only sometimes. -/
inductive FieldShape
  | required
  | optional
deriving DecidableEq, Repr

namespace Action

/-- All actions, in the order of their public indices. -/
def all : List Action :=
  [offerOwnership, acceptOwnership, appoint .masterMinter, appoint .pauser, appoint .blacklister,
    blacklist, unblacklist, pause, unpause, assignController, removeController, configureMinter,
    removeMinter, mint, burn]

def index (action : Action) : Nat := all.idxOf action

def ofIndex? (index : Nat) : Option Action := all[index]?

/-- Every action has an index of its own, and no other number is an index. -/
theorem ofIndex?_eq_some_iff {index : Nat} {action : Action} :
    ofIndex? index = some action ↔ action.index = index := by
  constructor
  · intro found
    have bound : index < 15 := (List.getElem?_eq_some_iff.mp found).1
    simp only [ofIndex?, all] at found
    match index, bound with
    | 0, _ | 1, _ | 2, _ | 3, _ | 4, _ | 5, _ | 6, _ | 7, _ | 8, _ | 9, _ | 10, _ | 11, _ | 12, _
    | 13, _ | 14, _ =>
      cases found
      rfl
  · rintro rfl
    rcases action with _ | _ | office | _ | _ | _ | _ | _ | _ | _ | _ | _ | _
    case appoint => cases office <;> rfl
    all_goals rfl

/-- The public name of the call that asks for an action. -/
def callName : Action → String
  | offerOwnership => "update_owner"
  | acceptOwnership => "accept_owner"
  | appoint .masterMinter => "update_master_minter"
  | appoint .pauser => "update_pauser"
  | appoint .blacklister => "update_blacklister"
  | blacklist => "blacklist"
  | unblacklist => "unblacklist"
  | pause => "pause"
  | unpause => "unpause"
  | assignController => "configure_minter_controller"
  | removeController => "remove_minter_controller"
  | configureMinter => "configure_minter"
  | removeMinter => "remove_minter"
  | mint => "mint"
  | burn => "burn"

def ofCallName? (name : String) : Option Action := all.find? (·.callName == name)

/-- The names of the arguments of the call that asks for an action, in order. -/
def parameters : Action → List String
  | offerOwnership => ["candidate"]
  | appoint _ => ["new"]
  | blacklist | unblacklist => ["account"]
  | acceptOwnership | pause | unpause => []
  | assignController => ["controller", "minter"]
  | removeController => ["controller"]
  | configureMinter => ["minter", "allowance"]
  | removeMinter => ["minter"]
  | mint => ["to", "amount"]
  | burn => ["amount"]

def eventName : Action → String
  | offerOwnership => "OwnerUpdated"
  | acceptOwnership => "OwnershipAccepted"
  | appoint .masterMinter => "MasterMinterUpdated"
  | appoint .pauser => "PauserUpdated"
  | appoint .blacklister => "BlacklisterUpdated"
  | blacklist => "Blacklisted"
  | unblacklist => "Unblacklisted"
  | pause => "Paused"
  | unpause => "Unpaused"
  | assignController => "MinterControllerConfigured"
  | removeController => "MinterControllerRemoved"
  | configureMinter => "MinterConfigured"
  | removeMinter => "MinterRemoved"
  | mint => "Minted"
  | burn => "Burned"

/-- The names and shapes of the fields of the event that records an action, in order. -/
def eventFields : Action → List (String × FieldShape)
  | offerOwnership => [("owner", .required), ("pending_owner", .required)]
  | acceptOwnership => [("previous_owner", .optional), ("new_owner", .required)]
  | appoint _ => [("old", .optional), ("new", .required)]
  | blacklist | unblacklist => [("account", .required)]
  | pause | unpause => []
  | assignController | removeController | removeMinter =>
      [("controller", .required), ("minter", .required)]
  | configureMinter => [("controller", .required), ("minter", .required), ("allowance", .required)]
  | mint => [("minter", .required), ("to", .required), ("amount", .required)]
  | burn => [("minter", .required), ("amount", .required)]

end Action

end Stablecoin
