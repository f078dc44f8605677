import Stablecoin.Action

/-! # What calls cost

The cost of a call is a fixed base plus a price for each read and each write of the storage. Costs
are words and saturate: past the largest word nothing gets dearer.
-/

namespace Stablecoin

structure StoragePrice where
  read : UInt64
  write : UInt64
deriving DecidableEq, Repr

/-- The cost of a call: the time it takes, and the size of the proof it needs. -/
structure Cost where
  time : UInt64
  proof : UInt64
deriving DecidableEq, Repr

structure StorageUse where
  reads : Nat
  writes : Nat
deriving DecidableEq, Repr

/-- The word nearest to a number. -/
def saturate (value : Nat) : UInt64 := (min value (UInt64.size - 1)).toUInt64

/-- The price of the storage of a common node. -/
def StoragePrice.standard : StoragePrice := ⟨25000000, 100000000⟩

/-- The time that every call takes, whatever it reads and writes. -/
def Cost.base : Nat := 10000000

def Cost.ofUse (base : Nat) (use : StorageUse) (price : StoragePrice) : Cost :=
  ⟨saturate (base + use.reads * price.read.toNat + use.writes * price.write.toNat), 0⟩

def Action.storageUse : Action → StorageUse
  | offerOwnership | pause | unpause | assignController => ⟨1, 1⟩
  | appoint _ | blacklist | unblacklist | removeController | configureMinter => ⟨2, 1⟩
  | acceptOwnership => ⟨2, 2⟩
  | removeMinter => ⟨3, 1⟩
  | mint => ⟨5, 3⟩
  | burn => ⟨4, 2⟩

def Action.cost (action : Action) (price : StoragePrice) : Cost :=
  .ofUse Cost.base action.storageUse price

/-- The cost of screening a transaction: the pause, and the signer and one other account in the
blacklist. -/
def Cost.screening (price : StoragePrice) : Cost := .ofUse 0 ⟨3, 0⟩ price

end Stablecoin
