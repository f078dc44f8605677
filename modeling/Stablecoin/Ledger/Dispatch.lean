import Stablecoin.Ledger.Execute

/-! # Dispatching calls

A call is dispatched in a storage layer of its own, so that it is carried out as a whole or not at
all: a call that fails leaves nothing behind, however far it got.
-/

namespace Stablecoin

/-- Carry out a call for whoever makes it. -/
def Ledger.dispatch (ledger : Ledger) (origin : Origin) (call : Call) :
    Outcome (Except CallError Unit) :=
  (call.execute origin).commit ledger

end Stablecoin
