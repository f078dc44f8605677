import Stablecoin.Ledger.Basic

/-! # Questions about the ledger

Look-ups that fail name what is missing. Lists come in ascending order of the accounts.
-/

namespace Stablecoin

namespace Ledger

/-- The owner, and the account that was offered the ownership. -/
def ownership (ledger : Ledger) : Except Refusal (Account × Option Account) :=
  match ledger.roles.owner with
  | some owner => .ok (owner, ledger.roles.pendingOwner)
  | none => .error .roleNotSet

def officer (ledger : Ledger) (office : Office) : Except Refusal Account :=
  match ledger.roles.holder (.office office) with
  | some holder => .ok holder
  | none => .error .roleNotSet

/-- The account itself, if it is frozen. -/
def blacklistEntry (ledger : Ledger) (who : Account) : Except Refusal Account :=
  if ledger.isBlacklisted who then .ok who else .error .notBlacklisted

def controllerEntry (ledger : Ledger) (controller : Account) :
    Except Refusal (Account × Account) :=
  match ledger.controllers[controller]? with
  | some minter => .ok (controller, minter)
  | none => .error .minterControllerNotFound

def minterEntry (ledger : Ledger) (minter : Account) : Except Refusal MinterRecord :=
  match ledger.minters[minter]? with
  | some record => .ok record
  | none => .error .minterNotFound

/-- The record of an active minter. -/
def activeMinter (ledger : Ledger) (minter : Account) : Except Refusal MinterRecord :=
  match ledger.activeMinter? minter with
  | some record => .ok record
  | none => .error .notMinter

def controllersOf (ledger : Ledger) (minter : Account) : List Account :=
  (ledger.controllers.toList.filter (·.2 == minter)).map (·.1)

/-- All controllers with their minters. -/
def controllerEntries (ledger : Ledger) : List (Account × Account) := ledger.controllers.toList

def blacklistEntries (ledger : Ledger) : List Account := ledger.blacklist.toList

end Ledger

inductive Query
  | ownership
  | officer (office : Office)
  | isPaused
  | blacklistEntry (who : Account)
  | isBlacklisted (who : Account)
  | controllerEntry (controller : Account)
  | minterEntry (minter : Account)
  | activeMinter (minter : Account)
  | controllersOf (minter : Account)
  | controllerEntries
  | blacklistEntries
deriving DecidableEq, Repr

inductive Answer
  | ownership (owner : Account) (pendingOwner : Option Account)
  | account (who : Account)
  | flag (value : Bool)
  | controller (controller minter : Account)
  | minter (record : MinterRecord)
  | accounts (list : List Account)
  | controllers (list : List (Account × Account))
deriving DecidableEq, Repr

def Ledger.answer (ledger : Ledger) : Query → Except Refusal Answer
  | .ownership => ledger.ownership.map fun (owner, pending) => .ownership owner pending
  | .officer office => (ledger.officer office).map .account
  | .isPaused => .ok (.flag ledger.paused)
  | .blacklistEntry who => (ledger.blacklistEntry who).map .account
  | .isBlacklisted who => .ok (.flag (ledger.isBlacklisted who))
  | .controllerEntry controller =>
      (ledger.controllerEntry controller).map fun (entry, minter) => .controller entry minter
  | .minterEntry minter => (ledger.minterEntry minter).map .minter
  | .activeMinter minter => (ledger.activeMinter minter).map .minter
  | .controllersOf minter => .ok (.accounts (ledger.controllersOf minter))
  | .controllerEntries => .ok (.controllers ledger.controllerEntries)
  | .blacklistEntries => .ok (.accounts ledger.blacklistEntries)

end Stablecoin
