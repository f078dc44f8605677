import Stablecoin.Ledger.Basic

/-! # The first ledger

A genesis lists who holds the seats, which accounts start frozen, which controllers are in charge
of which minters, the allowances of the minters and the first balances. Balances must be positive
and name each account once; in the other lists a later entry for the same account wins. Allowances
are given as numbers, and every one of them, also one that a later entry replaces, must fit a word.
-/

namespace Stablecoin

structure Genesis where
  owner : Option Account
  masterMinter : Option Account
  pauser : Option Account
  blacklister : Option Account
  paused : Bool
  blacklist : List Account
  /-- Controllers with their minters. -/
  controllers : List (Account × Account)
  /-- Minters with their allowances. -/
  minters : List (Account × Nat)
  balances : List (Account × Amount)
deriving DecidableEq, Repr

inductive GenesisFault
  | emptyBalance
  | repeatedBalance
  | oversizedAllowance
deriving DecidableEq, Repr

def GenesisFault.message : GenesisFault → String
  | emptyBalance =>
      "the balance of any account should always be at least the existential deposit."
  | repeatedBalance => "duplicate balances in genesis."
  | oversizedAllowance => "minter allowance exceeds the balance type"

/-- The bank with the given balances. Its issuance is their sum as a word. -/
def Bank.endow (balances : List (Account × Amount)) : Except GenesisFault Bank :=
  if balances.any (·.2 == 0) then .error .emptyBalance
  else if ¬ (balances.map (·.1)).Nodup then .error .repeatedBalance
  else
    .ok { balances.foldl (fun bank (who, amount) => bank.withBalance who amount) Bank.empty with
      issuance := balances.foldl (fun issuance (_, amount) => issuance + amount) 0 }

namespace Genesis

def blank : Genesis := ⟨none, none, none, none, false, [], [], [], []⟩

/-- The active record of each listed minter. -/
def minterRecords (genesis : Genesis) : List (Account × MinterRecord) :=
  genesis.minters.map fun (minter, allowance) => (minter, ⟨allowance.toUInt64, true⟩)

def build (genesis : Genesis) : Except GenesisFault Ledger := do
  let bank ← Bank.endow genesis.balances
  if genesis.minters.any (UInt64.size ≤ ·.2) then .error .oversizedAllowance
  return {
    roles := ⟨genesis.owner, none, genesis.masterMinter, genesis.pauser, genesis.blacklister⟩
    paused := genesis.paused
    blacklist := .ofList genesis.blacklist
    controllers := .ofList genesis.controllers
    minters := .ofList genesis.minterRecords
    bank }

end Genesis

end Stablecoin
