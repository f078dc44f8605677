import Stablecoin.Action

/-! # Calls and who makes them

A call is an action together with its arguments. Every argument is a word, so a call is determined
by its action and the list of its arguments (`Call.ofArguments?_eq_some_iff`).
-/

namespace Stablecoin

inductive Origin
  | signed (who : Account)
  | root
  | unsigned
deriving DecidableEq, Repr

/-- A request to change the ledger. -/
inductive Call
  /-- Offer the ownership to `candidate`, in place of any earlier offer. -/
  | offerOwnership (candidate : Account)
  /-- Take over the ownership that was offered to the caller. -/
  | acceptOwnership
  | appoint (office : Office) (holder : Account)
  | blacklist (account : Account)
  | unblacklist (account : Account)
  | pause
  | unpause
  /-- Put `controller` in charge of `minter`, and of no other. -/
  | assignController (controller minter : Account)
  | removeController (controller : Account)
  /-- Give the caller's minter a new allowance, in place of the old one. -/
  | configureMinter (minter : Account) (allowance : Amount)
  /-- Delete the record of the caller's minter. -/
  | removeMinter (minter : Account)
  /-- Create tokens for `recipient` against the caller's allowance. -/
  | mint (recipient : Account) (amount : Amount)
  /-- Destroy tokens that the caller holds. -/
  | burn (amount : Amount)
deriving DecidableEq, Repr

namespace Call

def action : Call → Action
  | offerOwnership _ => .offerOwnership
  | acceptOwnership => .acceptOwnership
  | appoint office _ => .appoint office
  | blacklist _ => .blacklist
  | unblacklist _ => .unblacklist
  | pause => .pause
  | unpause => .unpause
  | assignController _ _ => .assignController
  | removeController _ => .removeController
  | configureMinter _ _ => .configureMinter
  | removeMinter _ => .removeMinter
  | mint _ _ => .mint
  | burn _ => .burn

def arguments : Call → List UInt64
  | acceptOwnership | pause | unpause => []
  | offerOwnership who | appoint _ who | blacklist who | unblacklist who | removeController who
  | removeMinter who => [who]
  | burn amount => [amount]
  | assignController controller minter => [controller, minter]
  | configureMinter minter allowance => [minter, allowance]
  | mint recipient amount => [recipient, amount]

/-- The call with a given action and given arguments, when their number is right. -/
def ofArguments? (action : Action) (arguments : List UInt64) : Option Call :=
  match arguments with
  | [] =>
    match action with
    | .acceptOwnership => some .acceptOwnership
    | .pause => some .pause
    | .unpause => some .unpause
    | _ => none
  | [word] =>
    match action with
    | .offerOwnership => some (.offerOwnership word)
    | .appoint office => some (.appoint office word)
    | .blacklist => some (.blacklist word)
    | .unblacklist => some (.unblacklist word)
    | .removeController => some (.removeController word)
    | .removeMinter => some (.removeMinter word)
    | .burn => some (.burn word)
    | _ => none
  | [first, second] =>
    match action with
    | .assignController => some (.assignController first second)
    | .configureMinter => some (.configureMinter first second)
    | .mint => some (.mint first second)
    | _ => none
  | _ => none

theorem ofArguments?_eq_some_iff {action : Action} {arguments : List UInt64} {call : Call} :
    ofArguments? action arguments = some call ↔
      call.action = action ∧ call.arguments = arguments := by
  constructor
  · intro found
    unfold ofArguments? at found
    repeat' split at found
    all_goals cases found
    all_goals exact ⟨rfl, rfl⟩
  · rintro ⟨rfl, rfl⟩
    cases call <;> rfl

/-- A call has as many arguments as its action has parameters. -/
theorem length_arguments (call : Call) :
    call.arguments.length = call.action.parameters.length := by
  cases call <;> rfl

end Call

end Stablecoin
