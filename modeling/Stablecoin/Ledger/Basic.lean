import Stablecoin.Bank.Basic
import Stablecoin.Action

/-! # The ledger

All that is stored: who holds which seat, whether value movement is paused, which accounts are
frozen, which controller is in charge of which minter, what each minter may still mint, and the
bank. The ledger stores the assignment of controllers in one direction only; the controllers of a
minter are looked up (`Ledger.controllersOf`).
-/

namespace Stablecoin

/-- The seats that an account can hold, each giving the right to certain calls. -/
inductive Seat
  | owner
  /-- Held by the account that was offered the ownership. -/
  | pendingOwner
  | office (office : Office)
deriving DecidableEq, Repr

/-- The holders of all seats; a seat may be vacant. -/
structure Roles where
  owner : Option Account
  pendingOwner : Option Account
  masterMinter : Option Account
  pauser : Option Account
  blacklister : Option Account
deriving DecidableEq, Repr

def Roles.holder (roles : Roles) : Seat → Option Account
  | .owner => roles.owner
  | .pendingOwner => roles.pendingOwner
  | .office .masterMinter => roles.masterMinter
  | .office .pauser => roles.pauser
  | .office .blacklister => roles.blacklister

/-- The roles after a seat was given to an account, or vacated. -/
def Roles.assign (roles : Roles) (seat : Seat) (who : Option Account) : Roles :=
  match seat with
  | .owner => { roles with owner := who }
  | .pendingOwner => { roles with pendingOwner := who }
  | .office .masterMinter => { roles with masterMinter := who }
  | .office .pauser => { roles with pauser := who }
  | .office .blacklister => { roles with blacklister := who }

@[simp] theorem Roles.holder_assign (roles : Roles) (seat other : Seat) (who : Option Account) :
    (roles.assign seat who).holder other = if seat = other then who else roles.holder other := by
  rcases seat with _ | _ | (_ | _ | _) <;> rcases other with _ | _ | (_ | _ | _) <;> rfl

/-- What a minter may still mint. A removed minter has no record, so a record that was never
written directly is active. -/
structure MinterRecord where
  allowance : Amount
  active : Bool
deriving DecidableEq, Repr

structure Ledger where
  roles : Roles
  paused : Bool
  blacklist : AccountSet
  /-- The minter that each controller is in charge of. -/
  controllers : AccountMap Account
  minters : AccountMap MinterRecord
  bank : Bank
deriving DecidableEq

namespace Ledger

def isBlacklisted (ledger : Ledger) (who : Account) : Bool := ledger.blacklist.contains who

theorem isBlacklisted_iff {ledger : Ledger} {who : Account} :
    ledger.isBlacklisted who = true ↔ who ∈ ledger.blacklist := Std.ExtTreeSet.contains_iff_mem

/-- The record of an active minter. -/
def activeMinter? (ledger : Ledger) (who : Account) : Option MinterRecord :=
  ledger.minters[who]?.filter (·.active)

theorem activeMinter?_eq_some_iff {ledger : Ledger} {who : Account} {record : MinterRecord} :
    ledger.activeMinter? who = some record ↔
      ledger.minters[who]? = some record ∧ record.active = true := Option.filter_eq_some_iff

/-- The ledger after a seat was given to an account, or vacated. -/
def assign (ledger : Ledger) (seat : Seat) (who : Option Account) : Ledger :=
  { ledger with roles := ledger.roles.assign seat who }

end Ledger

end Stablecoin
