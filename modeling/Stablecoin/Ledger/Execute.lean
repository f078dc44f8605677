import Stablecoin.Call
import Stablecoin.Ledger.Layer

/-! # Executing calls

`Call.execute` says what a call does in its storage layer, check by check and write by write. The
checks stand in the order in which their refusals win, and every call ends by recording one event.
Minting lowers the allowance before it turns to the bank, which may still refuse. Appointments and
the administration of controllers ignore the pause and the blacklist; minting, burning and
configuring minters do not.
-/

namespace Stablecoin

def Seat.refusal : Seat → Refusal
  | .owner => .notOwner
  | .pendingOwner => .notPendingOwner
  | .office .masterMinter => .notMasterMinter
  | .office .pauser => .notPauser
  | .office .blacklister => .notBlacklister

namespace Ledger

/-- Refuse a caller who does not hold a seat; nobody holds a vacant one. -/
def requireSeat (ledger : Ledger) (seat : Seat) (caller : Account) : Except CallError Unit :=
  require (ledger.roles.holder seat = some caller) seat.refusal

/-- Refuse a caller who is not in charge of a minter. -/
def requireControl (ledger : Ledger) (caller minter : Account) : Except CallError Unit :=
  match ledger.controllers[caller]? with
  | none => .error (.refused .notMinterController)
  | some controlledMinter => require (controlledMinter = minter) .controllerMinterMismatch

def requireController (ledger : Ledger) (controller : Account) : Except CallError Account :=
  match ledger.controllers[controller]? with
  | none => .error (.refused .minterControllerNotFound)
  | some minter => .ok minter

/-- The active record of a minter who may move value now. -/
def requireMinter (ledger : Ledger) (minter : Account) : Except CallError MinterRecord := do
  require (ledger.paused = false) .mintingPaused
  match ledger.activeMinter? minter with
  | none => .error (.refused .notMinter)
  | some record => do
      require (ledger.isBlacklisted minter = false) .minterBlacklisted
      return record

variable {ledger : Ledger} {caller : Account}

theorem requireSeat_eq_ok_iff {seat : Seat} {done : Unit} :
    ledger.requireSeat seat caller = .ok done ↔ ledger.roles.holder seat = some caller :=
  require_eq_ok_iff

theorem requireControl_eq_ok_iff {minter : Account} {done : Unit} :
    ledger.requireControl caller minter = .ok done ↔ ledger.controllers[caller]? = some minter := by
  unfold requireControl
  split <;> simp_all [require_eq_ok_iff]

theorem requireController_eq_ok_iff {controller minter : Account} :
    ledger.requireController controller = .ok minter ↔
      ledger.controllers[controller]? = some minter := by
  unfold requireController
  split <;> simp_all

theorem requireMinter_eq_ok_iff {minter : Account} {record : MinterRecord} :
    ledger.requireMinter minter = .ok record ↔
      ledger.paused = false ∧ ledger.activeMinter? minter = some record ∧
        ledger.isBlacklisted minter = false := by
  simp only [requireMinter, bind_eq_ok_iff, require_eq_ok_iff, exists_const]
  cases ledger.activeMinter? minter <;>
    simp [bind_eq_ok_iff, require_eq_ok_iff, pure, Except.pure, and_comm]

end Ledger

def Origin.caller : Origin → Except CallError Account
  | .signed who => .ok who
  | .root | .unsigned => .error .badOrigin

open Layered in
/-- What a call does for the account that signed it. -/
def Call.perform (caller : Account) : Call → Layered Unit
  | .offerOwnership candidate => do
      check ((← read).requireSeat .owner caller)
      write (·.assign .pendingOwner (some candidate))
      record caller (.ownershipOffered caller candidate)
  | .acceptOwnership => do
      check ((← read).requireSeat .pendingOwner caller)
      let previous := (← read).roles.owner
      write (·.assign .owner (some caller))
      write (·.assign .pendingOwner none)
      record caller (.ownershipAccepted previous caller)
  | .appoint office holder => do
      check ((← read).requireSeat .owner caller)
      let previous := (← read).roles.holder (.office office)
      write (·.assign (.office office) (some holder))
      record caller (.appointed office previous holder)
  | .blacklist account => do
      check ((← read).requireSeat (.office .blacklister) caller)
      check (require ((← read).isBlacklisted account = false) .alreadyBlacklisted)
      write fun ledger => { ledger with blacklist := ledger.blacklist.insert account }
      record caller (.blacklisted account)
  | .unblacklist account => do
      check ((← read).requireSeat (.office .blacklister) caller)
      check (require ((← read).isBlacklisted account = true) .notBlacklisted)
      write fun ledger => { ledger with blacklist := ledger.blacklist.erase account }
      record caller (.unblacklisted account)
  | .pause => do
      check ((← read).requireSeat (.office .pauser) caller)
      write ({ · with paused := true })
      record caller .paused
  | .unpause => do
      check ((← read).requireSeat (.office .pauser) caller)
      write ({ · with paused := false })
      record caller .unpaused
  | .assignController controller minter => do
      check ((← read).requireSeat (.office .masterMinter) caller)
      write fun ledger => { ledger with controllers := ledger.controllers.insert controller minter }
      record caller (.controllerAssigned controller minter)
  | .removeController controller => do
      check ((← read).requireSeat (.office .masterMinter) caller)
      let minter ← check ((← read).requireController controller)
      write fun ledger => { ledger with controllers := ledger.controllers.erase controller }
      record caller (.controllerRemoved controller minter)
  | .configureMinter minter allowance => do
      check ((← read).requireControl caller minter)
      check (require ((← read).paused = false) .mintingPaused)
      write fun ledger => { ledger with minters := ledger.minters.insert minter ⟨allowance, true⟩ }
      record caller (.minterConfigured caller minter allowance)
  | .removeMinter minter => do
      check ((← read).requireControl caller minter)
      -- A pause does not stop this, and a record that is inactive can be removed too.
      check (require (minter ∈ (← read).minters) .minterNotFound)
      write fun ledger => { ledger with minters := ledger.minters.erase minter }
      record caller (.minterRemoved caller minter)
  | .mint recipient amount => do
      let entry ← check ((← read).requireMinter caller)
      check (require ((← read).isBlacklisted recipient = false) .receiverBlacklisted)
      check (require (amount ≤ entry.allowance) .insufficientAllowance)
      let spent := { entry with allowance := entry.allowance.saturatingSub amount }
      write fun ledger => { ledger with minters := ledger.minters.insert caller spent }
      -- The bank may still refuse; the layer is dropped then, the lower allowance with it.
      transact (·.mint recipient amount)
      record caller (.minted caller recipient amount)
  | .burn amount => do
      -- The allowance limits what a minter creates, not what it destroys.
      let _ ← check ((← read).requireMinter caller)
      transact (·.burn caller amount)
      record caller (.burned caller amount)

/-- What a call does for whoever makes it. -/
def Call.execute (call : Call) (origin : Origin) : Layered Unit := do
  let caller ← Layered.check origin.caller
  call.perform caller

end Stablecoin
