import Stablecoin.Event
import Stablecoin.Ledger.Basic

/-! # Replaying events

`Ledger.apply` is what one event says about the ledger, without any check and without the call that
caused it. Replaying the events of a history over its first ledger gives its last one.
-/

namespace Stablecoin.Ledger

/-- The bank after tokens were created for `recipient`. -/
def credited (bank : Bank) (recipient : Account) (amount : Amount) : Bank :=
  { bank.withBalance recipient (bank.balanceOf recipient + amount) with
    issuance := bank.issuance + amount }

def debited (bank : Bank) (who : Account) (amount : Amount) : Bank :=
  { bank.withBalance who (bank.balanceOf who - amount) with
    issuance := bank.issuance - amount }

/-- The ledger changed by what an event says, and by nothing else. -/
def apply (ledger : Ledger) : Event → Ledger
  | .ownershipOffered _ candidate => ledger.assign .pendingOwner (some candidate)
  | .ownershipAccepted _ owner => (ledger.assign .owner (some owner)).assign .pendingOwner none
  | .appointed office _ holder => ledger.assign (.office office) (some holder)
  | .blacklisted account => { ledger with blacklist := ledger.blacklist.insert account }
  | .unblacklisted account => { ledger with blacklist := ledger.blacklist.erase account }
  | .paused => { ledger with paused := true }
  | .unpaused => { ledger with paused := false }
  | .controllerAssigned controller minter =>
      { ledger with controllers := ledger.controllers.insert controller minter }
  | .controllerRemoved controller _ =>
      { ledger with controllers := ledger.controllers.erase controller }
  | .minterConfigured _ minter allowance =>
      { ledger with minters := ledger.minters.insert minter ⟨allowance, true⟩ }
  | .minterRemoved _ minter => { ledger with minters := ledger.minters.erase minter }
  | .minted minter recipient amount =>
      { ledger with
        minters := ledger.minters.alter minter
          (·.map fun record => { record with allowance := record.allowance - amount })
        bank := credited ledger.bank recipient amount }
  | .burned minter amount => { ledger with bank := debited ledger.bank minter amount }

def replay (ledger : Ledger) (history : List Event) : Ledger := history.foldl apply ledger

end Stablecoin.Ledger
