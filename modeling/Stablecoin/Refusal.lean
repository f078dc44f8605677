/-! # Why a call fails

A call fails because its origin is not an account, because the ledger refuses it, because the bank
cannot carry it out, or because the transfer application behind a relay is unavailable. The
position of a refusal in `Refusal.all` is its public code.
-/

namespace Stablecoin

/-- The reasons for which the ledger itself refuses a call, a look-up or a transfer. -/
inductive Refusal
  | notOwner
  | notPendingOwner
  | notMasterMinter
  | notPauser
  | notBlacklister
  /-- The caller is assigned to no minter. -/
  | notMinterController
  /-- The caller is assigned to another minter. -/
  | controllerMinterMismatch
  | notMinter
  /-- The requested seat is vacant. -/
  | roleNotSet
  | minterNotFound
  | minterControllerNotFound
  | alreadyBlacklisted
  | notBlacklisted
  /-- Minting, burning and configuring minters are paused. -/
  | mintingPaused
  | paused
  | minterBlacklisted
  | senderBlacklisted
  | receiverBlacklisted
  | insufficientAllowance
  /-- The bytes of a local address do not spell an account. -/
  | invalidAddress
deriving DecidableEq, Repr

namespace Refusal

/-- All refusals, in the order of their public codes. -/
def all : List Refusal :=
  [notOwner, notPendingOwner, notMasterMinter, notPauser, notBlacklister, notMinterController,
    controllerMinterMismatch, notMinter, roleNotSet, minterNotFound, minterControllerNotFound,
    alreadyBlacklisted, notBlacklisted, mintingPaused, paused, minterBlacklisted,
    senderBlacklisted, receiverBlacklisted, insufficientAllowance, invalidAddress]

def code (refusal : Refusal) : Nat := all.idxOf refusal

def ofCode? (code : Nat) : Option Refusal := all[code]?

/-- Every refusal has a code of its own, and no other number is a code. -/
theorem ofCode?_eq_some_iff {code : Nat} {refusal : Refusal} :
    ofCode? code = some refusal ↔ refusal.code = code := by
  constructor
  · intro found
    have bound : code < 20 := (List.getElem?_eq_some_iff.mp found).1
    revert found refusal
    revert code
    decide
  · rintro rfl
    cases refusal <;> rfl

def name : Refusal → String
  | notOwner => "NotOwner"
  | notPendingOwner => "NotPendingOwner"
  | notMasterMinter => "NotMasterMinter"
  | notPauser => "NotPauser"
  | notBlacklister => "NotBlacklister"
  | notMinterController => "NotMinterController"
  | controllerMinterMismatch => "ControllerMinterMismatch"
  | notMinter => "NotMinter"
  | roleNotSet => "RoleNotSet"
  | minterNotFound => "MinterNotFound"
  | minterControllerNotFound => "MinterControllerNotFound"
  | alreadyBlacklisted => "AlreadyBlacklisted"
  | notBlacklisted => "NotBlacklisted"
  | mintingPaused => "MintingPaused"
  | paused => "Paused"
  | minterBlacklisted => "MinterBlacklisted"
  | senderBlacklisted => "SenderBlacklisted"
  | receiverBlacklisted => "ReceiverBlacklisted"
  | insufficientAllowance => "InsufficientAllowance"
  | invalidAddress => "InvalidAddress"

end Refusal

inductive BankError
  /-- The account holds less than is to be burned. -/
  | fundsUnavailable
  /-- The account would be left with nothing by a deposit. -/
  | belowMinimum
  /-- The issuance or a balance would not fit a word. -/
  | overflow
deriving DecidableEq, Repr

def BankError.name : BankError → String
  | fundsUnavailable => "Token.FundsUnavailable"
  | belowMinimum => "Token.BelowMinimum"
  | overflow => "Arithmetic.Overflow"

def BankError.message : BankError → String
  | fundsUnavailable => "Funds are unavailable"
  | belowMinimum => "Account cannot exist with the funds that would be given"
  | overflow => "An overflow would occur"

/-- Why a call, or a transfer through a relay, fails. -/
inductive CallError
  | badOrigin
  | refused (refusal : Refusal)
  | bank (error : BankError)
  /-- The transfer application behind the relay did not take the transfer. -/
  | unavailable
deriving DecidableEq, Repr

def CallError.message : CallError → String
  | badOrigin => "Bad origin"
  | refused refusal => refusal.name
  | bank error => error.message
  | unavailable => "Resource unavailable"

/-- Refuse unless the condition holds. -/
def require (condition : Prop) [Decidable condition] (refusal : Refusal) : Except CallError Unit :=
  if condition then .ok () else .error (.refused refusal)

/-- A sequence succeeds when each of its parts does. -/
theorem bind_eq_ok_iff {ε α β : Type} {first : Except ε α} {next : α → Except ε β} {result : β} :
    (first >>= next) = .ok result ↔ ∃ value, first = .ok value ∧ next value = .ok result := by
  cases first <;> simp [bind, Except.bind]

theorem bind_eq_error_iff {ε α β : Type} {first : Except ε α} {next : α → Except ε β} {error : ε} :
    (first >>= next) = .error error ↔
      first = .error error ∨ ∃ value, first = .ok value ∧ next value = .error error := by
  cases first <;> simp [bind, Except.bind]

theorem mapError_eq_ok_iff {ε ε' α : Type} {result : Except ε α} {view : ε → ε'} {value : α} :
    result.mapError view = .ok value ↔ result = .ok value := by
  cases result with
  | ok given =>
    change Except.ok given = Except.ok value ↔ _
    rw [Except.ok.injEq, Except.ok.injEq]
  | error cause =>
    change Except.error (view cause) = Except.ok value ↔ _
    simp only [reduceCtorEq]

theorem mapError_eq_error_iff {ε ε' α : Type} {result : Except ε α} {view : ε → ε'} {error : ε'} :
    result.mapError view = .error error ↔ ∃ cause, result = .error cause ∧ view cause = error := by
  cases result with
  | ok given =>
    change Except.ok given = Except.error error ↔ _
    simp only [reduceCtorEq, false_and, exists_false]
  | error cause =>
    change Except.error (view cause) = Except.error error ↔ _
    simp only [Except.error.injEq, exists_eq_left']

theorem require_eq_ok_iff {condition : Prop} [Decidable condition] {refusal : Refusal}
    {done : Unit} : require condition refusal = .ok done ↔ condition := by
  unfold require
  split <;> simp_all

theorem require_eq_error_iff {condition : Prop} [Decidable condition] {refusal : Refusal}
    {error : CallError} :
    require condition refusal = .error error ↔ ¬ condition ∧ error = .refused refusal := by
  unfold require
  split <;> simp_all [eq_comm]

end Stablecoin
