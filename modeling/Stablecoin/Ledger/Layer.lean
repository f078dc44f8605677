import Stablecoin.Audit
import Stablecoin.Ledger.Basic
import Stablecoin.Refusal

/-! # Storage layers

A call works in a layer above the stored ledger. It checks, writes and deposits events there in its
own order, and may fail after it has written. `Layered.commit` keeps the writes and the events of
work that succeeds and throws those of work that fails away. The audit log is not stored: a line
that was written stays written.
-/

namespace Stablecoin

/-- What an operation answers, and all that it leaves behind. -/
structure Outcome (ρ : Type) where
  reply : ρ
  events : List Event
  log : List LogLine
  ledger : Ledger

/-- The state of work in progress. -/
structure Layer where
  ledger : Ledger
  events : List Event
  log : List LogLine

/-- Work in a layer, which may fail and which then leaves the layer as far as it got. -/
def Layered (α : Type) := Layer → Except CallError α × Layer

namespace Layered

variable {α β : Type}

instance : Monad Layered where
  pure value := fun layer => (.ok value, layer)
  bind first next := fun layer =>
    match first layer with
    | (.ok value, layer) => next value layer
    | (.error error, layer) => (.error error, layer)

def read : Layered Ledger := fun layer => (.ok layer.ledger, layer)

def check (result : Except CallError α) : Layered α := fun layer => (result, layer)

def write (change : Ledger → Ledger) : Layered Unit := fun layer =>
  (.ok (), { layer with ledger := change layer.ledger })

/-- Have the bank carry out a transaction, which it may refuse. -/
def transact (transaction : Bank → Except BankError Bank) : Layered Unit := do
  let ledger ← read
  let bank ← check ((transaction ledger.bank).mapError .bank)
  write ({ · with bank })

/-- Record a change that `caller` made: the line about it, if there is one, and then its event. -/
def record (caller : Account) (event : Event) : Layered Unit := fun layer =>
  (.ok (), { layer with
    events := layer.events ++ [event]
    log := layer.log ++ (event.notice? caller).toList })

@[simp] theorem read_bind (next : Ledger → Layered α) (layer : Layer) :
    (read >>= next) layer = next layer.ledger layer := rfl

@[simp] theorem write_bind (change : Ledger → Ledger) (next : Unit → Layered α) (layer : Layer) :
    (write change >>= next) layer = next () { layer with ledger := change layer.ledger } := rfl

@[simp] theorem check_bind (result : Except CallError α) (next : α → Layered β) (layer : Layer) :
    (check result >>= next) layer =
      match result with
      | .ok value => next value layer
      | .error error => (.error error, layer) := by
  cases result <;> rfl

@[simp] theorem transact_bind (transaction : Bank → Except BankError Bank)
    (next : Unit → Layered α) (layer : Layer) :
    (transact transaction >>= next) layer =
      match transaction layer.ledger.bank with
      | .ok bank => next () { layer with ledger := { layer.ledger with bank } }
      | .error error => (.error (.bank error), layer) := by
  simp only [transact, bind, read, check, write]
  cases transaction layer.ledger.bank <;> rfl

/-- Do work in a fresh layer above a ledger, and keep what it wrote only if it succeeds. -/
def commit (work : Layered α) (ledger : Ledger) : Outcome (Except CallError α) :=
  match work ⟨ledger, [], []⟩ with
  | (.ok value, layer) => ⟨.ok value, layer.events, layer.log, layer.ledger⟩
  | (.error error, layer) => ⟨.error error, [], layer.log, ledger⟩

end Layered

end Stablecoin
