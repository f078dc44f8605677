import Stablecoin.Cost
import Stablecoin.Transaction
import Stablecoin.Wire.Formats

/-! # Names and numbers that others rely on

The public names of calls, events, refusals and their fields, the codes of refused transactions and
the version of the stored state.
-/

namespace Stablecoin.Schema

/-- One case of a public enumeration; a field may be unnamed. -/
structure Variant where
  index : Nat
  name : String
  fields : List (Option String)
deriving DecidableEq, Repr

def calls : List Variant :=
  Action.all.map fun action => ⟨action.index, action.callName, action.parameters.map some⟩

def events : List Variant :=
  Action.all.map fun action =>
    ⟨action.index, action.eventName, action.eventFields.map fun (name, _) => some name⟩

def refusals : List Variant :=
  Refusal.all.map fun refusal => ⟨refusal.code, refusal.name, []⟩

def acknowledgements : List Variant := [⟨0, "Success", [none]⟩, ⟨1, "Error", [none]⟩]

def minterFields : List String := ["allowance", "active"]

def packetFields : List String := ["denom", "amount", "sender", "receiver"]

/-- The position of the ledger among the modules of its host. -/
def moduleIndex : Nat := 2

def storageVersion : Nat := 1

/-- The version of the stored state as it is stored. -/
def storedVersion : Bytes := (Codec.littleEndian 2).encode storageVersion

def screeningName : String := "CheckTransferGate"

/-- The format of the screening of transactions, which has nothing to write. -/
def screeningCodec : Codec Unit := .unit

end Stablecoin.Schema
