import Stablecoin.Ledger.Dispatch

/-! # Rehearsals

A rehearsal shows one call at work on any ledger: it writes what the call needs past all checks,
makes the call, and may then assert what the call should have brought about. Nothing is undone at
the end. A ledger that gets in the way, with a frozen account or a full bank, makes it fail.
-/

namespace Stablecoin.Rehearsal

/-! ## The accounts that take part -/

/-- The signer of most calls, and the minter that is set up. -/
def performer : Account := 15276289921735352792
def controller : Account := 8828449771425930050
def candidate : Account := 16697628982762323894
def owner : Account := 2121585473252877804
def target : Account := 16610556233243859491
def minter : Account := 10283578190996678914
def recipient : Account := 17970595425320202113
def masterMinter : Account := 457894984456076249
def pauser : Account := 5915212824855749603
def blacklister : Account := 9267611802453665478

def appointee : Office → Account
  | .masterMinter => masterMinter
  | .pauser => pauser
  | .blacklister => blacklister

/-! ## Preparing the ledger -/

/-- What a rehearsal writes into the ledger before its call. -/
inductive Setting
  | seat (place : Seat) (who : Account)
  | freeze (who : Account)
  | paused (flag : Bool)
  | assign (controller minter : Account)
  | record (minter : Account) (entry : MinterRecord)
  /-- Create funds, which a full bank refuses. -/
  | fund (who : Account) (amount : Amount)
deriving DecidableEq, Repr

def Setting.write (ledger : Ledger) : Setting → Option Ledger
  | seat place who => some (ledger.assign place (some who))
  | freeze who => some { ledger with blacklist := ledger.blacklist.insert who }
  | paused flag => some { ledger with paused := flag }
  | assign controller minter =>
      some { ledger with controllers := ledger.controllers.insert controller minter }
  | record minter entry => some { ledger with minters := ledger.minters.insert minter entry }
  | fund who amount =>
    match ledger.bank.mint who amount with
    | .ok bank => some { ledger with bank }
    | .error _ => none

/-- Write settings in order, up to the first that fails, and tell whether all were written. -/
def prepare (ledger : Ledger) : List Setting → Ledger × Bool
  | [] => (ledger, true)
  | setting :: rest =>
    match setting.write ledger with
    | some next => prepare next rest
    | none => (ledger, false)

/-- The performer as a minter with an allowance of 1000 and a controller. -/
def seedMinter : List Setting := [.assign controller performer, .record performer ⟨1000, true⟩]

/-! ## Scripts -/

structure Script where
  settings : List Setting
  signer : Account
  call : Call
  /-- What must hold of the ledger after the call. -/
  holds : Ledger → Bool

def script : Action → Script
  | .offerOwnership =>
    { settings := [.seat .owner performer]
      signer := performer
      call := .offerOwnership candidate
      holds := (·.roles.pendingOwner == some candidate) }
  | .acceptOwnership =>
    { settings := [.seat .owner owner, .seat .pendingOwner performer]
      signer := performer
      call := .acceptOwnership
      holds := fun ledger =>
        ledger.roles.owner == some performer && ledger.roles.pendingOwner == none }
  | .appoint office =>
    { settings := [.seat .owner performer]
      signer := performer
      call := .appoint office (appointee office)
      holds := (·.roles.holder (.office office) == some (appointee office)) }
  | .blacklist =>
    { settings := [.seat (.office .blacklister) performer]
      signer := performer
      call := .blacklist target
      holds := (·.isBlacklisted target) }
  | .unblacklist =>
    { settings := [.seat (.office .blacklister) performer, .freeze target]
      signer := performer
      call := .unblacklist target
      holds := (! ·.isBlacklisted target) }
  | .pause =>
    { settings := [.seat (.office .pauser) performer]
      signer := performer
      call := .pause
      holds := (·.paused) }
  | .unpause =>
    { settings := [.seat (.office .pauser) performer, .paused true]
      signer := performer
      call := .unpause
      holds := (! ·.paused) }
  | .assignController =>
    { settings := [.seat (.office .masterMinter) performer]
      signer := performer
      call := .assignController controller minter
      holds := (·.controllers[controller]? == some minter) }
  | .removeController =>
    { settings := [.seat (.office .masterMinter) performer, .assign controller minter]
      signer := performer
      call := .removeController controller
      holds := (! ·.controllers.contains controller) }
  | .configureMinter =>
    { settings := seedMinter ++ [.paused false]
      signer := controller
      call := .configureMinter performer 5000
      holds := fun ledger => (ledger.minters[performer]?.map (·.allowance)) == some 5000 }
  | .removeMinter =>
    { settings := seedMinter
      signer := controller
      call := .removeMinter performer
      holds := (! ·.minters.contains performer) }
  | .mint =>
    { settings := seedMinter ++ [.paused false]
      signer := performer
      call := .mint recipient 10
      holds := fun ledger =>
        ledger.bank.balanceOf recipient == 10 &&
          (ledger.minters[performer]?.map (·.allowance)) == some 990 }
  | .burn =>
    { settings := seedMinter ++ [.paused false, .fund performer 20]
      signer := performer
      call := .burn 10
      holds := (·.bank.balanceOf performer == 10) }

/-! ## Performing -/

/-- How a rehearsal ends. -/
inductive Verdict
  | passed
  /-- The call failed, or there is no such call. -/
  | stopped (message : String)
  | aborted
deriving DecidableEq, Repr

/-- Perform a script, and check its assertion if asked to. -/
def Script.perform (script : Script) (verify : Bool) (ledger : Ledger) : Outcome Verdict :=
  match prepare ledger script.settings with
  | (prepared, false) => ⟨.aborted, [], [], prepared⟩
  | (prepared, true) =>
    let done := prepared.dispatch (.signed script.signer) script.call
    match done.reply with
    | .error error => { done with reply := .stopped error.message }
    | .ok () =>
      if verify && ! script.holds done.ledger then { done with reply := .aborted }
      else { done with reply := .passed }

def names : List String := Action.all.map Action.callName

/-- Perform the rehearsal with a given name. -/
def perform (name : String) (verify : Bool) (ledger : Ledger) : Outcome Verdict :=
  match Action.ofCallName? name with
  | some action => (script action).perform verify ledger
  | none => ⟨.stopped "Could not find extrinsic.", [], [], ledger⟩

end Stablecoin.Rehearsal
