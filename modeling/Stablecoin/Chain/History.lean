import Stablecoin.Chain.Basic

/-! # What a history leaves behind

The events of a history, each with the account that signed the command it came from. A command is
regular when it goes through the checks of the ledger; the others write the stored state directly.
-/

namespace Stablecoin

def Command.signer? : Command → Option Account
  | .dispatch (.signed who) _ | .submit (.signed who) _ _ => some who
  | _ => none

/-- The command does not write the stored ledger past its checks. -/
def Command.Regular : Command → Prop
  | .vacate _ | .writeMinter _ _ => False
  | _ => True

instance (command : Command) : Decidable command.Regular := by
  cases command <;> unfold Command.Regular <;> infer_instance

/-- An event together with the account whose call deposited it. -/
structure SignedEvent where
  signer : Account
  event : Event
deriving DecidableEq, Repr

namespace Chain

/-- The events that a command deposits, each with the signer of the command. -/
def deposits (chain : Chain) (command : Command) : List SignedEvent :=
  match command.signer? with
  | some signer => (chain.step command).events.map (⟨signer, ·⟩)
  | none => []

/-- The events of a history of commands, oldest first. -/
def history (chain : Chain) : List Command → List SignedEvent
  | [] => []
  | command :: rest => chain.deposits command ++ (chain.step command).chain.history rest

theorem after_append (chain : Chain) (first second : List Command) :
    chain.after (first ++ second) = (chain.after first).after second := by
  simp only [after, List.foldl_append]

end Chain

end Stablecoin
