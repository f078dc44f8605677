/-! # The gate

A gate is an ordered list of guards. Each guard looks at a movement of value and at the state, and
either lets the movement through or denies it; the first denial is the answer. Guards may look at
any kind of state. The standard ones know no more of it than a pause flag and how to ask whether an
account is frozen, so they run over the ledger and over any other state that shows these.

The standard gate asks first whether value movement is paused, then whether a sender is frozen,
then whether a receiver is. It never looks at the kind of the operation.
-/

namespace Stablecoin

/-- The kinds of value movement. -/
inductive Operation
  | send
  /-- A transfer by a grantee out of a granter's account. -/
  | delegatedSend
  | delegationGrant
  | feePayment
  | crossChainReceive
  | crossChainSend
deriving DecidableEq, Repr

def Operation.all : List Operation :=
  [send, delegatedSend, delegationGrant, feePayment, crossChainReceive, crossChainSend]

def Operation.name : Operation → String
  | send => "Send"
  | delegatedSend => "DelegatedSend"
  | delegationGrant => "DelegationGrant"
  | feePayment => "FeePayment"
  | crossChainReceive => "CrossChainReceive"
  | crossChainSend => "CrossChainSend"

/-- How a kind of movement is spelled in audit lines. -/
def Operation.label (operation : Operation) : String := "Operation::" ++ operation.name

/-- The accounts that one movement of value touches. -/
structure Movement (α : Type) where
  operation : Operation
  /-- The accounts whose funds leave, or which act for those. -/
  senders : List α
  receivers : List α
deriving DecidableEq, Repr

/-- Why a movement is denied; a frozen account is named. -/
inductive Denial (α : Type)
  | paused
  | cannotSend (who : α)
  | cannotReceive (who : α)
deriving DecidableEq, Repr

def Denial.reason {α : Type} : Denial α → String
  | paused => "the module is paused"
  | cannotSend _ => "an address is blacklisted and can not send tokens"
  | cannotReceive _ => "an address is blacklisted and can not receive tokens"

def Denial.account? {α : Type} : Denial α → Option α
  | paused => none
  | cannotSend who | cannotReceive who => some who

/-- What the standard guards know about the state. -/
structure GateView (α : Type) where
  paused : Bool
  frozen : α → Bool

/-- The view of a pause flag and a list of frozen accounts, whose order and repetitions are
invisible. -/
def GateView.ofList {α : Type} [DecidableEq α] (paused : Bool) (frozen : List α) : GateView α :=
  ⟨paused, fun who => decide (who ∈ frozen)⟩

/-- A guard lets a movement through or denies it, going by the state as it sees it. -/
abbrev Guard (α σ : Type) := Movement α → σ → Except (Denial α) Unit

namespace Guard

variable {α σ : Type}

def pause : Guard α (GateView α) := fun _ view =>
  if view.paused then .error .paused else .ok ()

/-- Denies a movement that touches a frozen account. -/
def blacklist : Guard α (GateView α) := fun movement view =>
  match movement.senders.find? view.frozen with
  | some who => .error (.cannotSend who)
  | none =>
    -- Receivers are looked at only when every sender is free.
    match movement.receivers.find? view.frozen with
    | some who => .error (.cannotReceive who)
    | none => .ok ()

/-- Denies a movement whose first sender is also its first receiver. -/
def selfTransfer [DecidableEq α] : Guard α σ := fun movement _ =>
  match movement.senders, movement.receivers with
  | sender :: _, receiver :: _ =>
      if sender = receiver then .error (.cannotReceive receiver) else .ok ()
  | _, _ => .ok ()

def standard : List (Guard α (GateView α)) := [pause, blacklist]

/-- Run guards in order, up to the first denial. -/
def check (guards : List (Guard α σ)) (movement : Movement α) (state : σ) :
    Except (Denial α) Unit :=
  match guards with
  | [] => .ok ()
  | guard :: rest =>
    match guard movement state with
    | .ok () => check rest movement state
    | .error denial => .error denial

/-- A gate made of two runs the second only when the first lets the movement through. -/
theorem check_append (first second : List (Guard α σ)) (movement : Movement α) (state : σ) :
    check (first ++ second) movement state =
      (check first movement state).bind fun _ => check second movement state := by
  induction first with
  | nil => rfl
  | cons guard rest ih =>
    simp only [List.cons_append, check]
    cases guard movement state with
    | ok => exact ih
    | error denial => rfl

end Guard

end Stablecoin
