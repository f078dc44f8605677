import Mathlib.Data.List.Forall2
import Stablecoin.Chain.Basic
import Stablecoin.Proofs.Ledger.Judgement

/-! # Comparing two runs

The same commands are asked of two chains whose ledgers are related. A command overlooks the
difference when both chains answer it alike, deposit the same events, log the same lines and go over
into chains that are related again. Runs of such commands agree step by step (`Chain.run_alike`) and
end in related chains (`Chain.after_alike`). Whether a call overlooks a difference is seen from what
is judged of it on either side, and from what its event does.
-/

namespace Stablecoin

/-- Two chains have fees in one denomination, and their ledgers are related. -/
structure Chain.Alike (R : Ledger → Ledger → Prop) (left right : Chain) : Prop where
  feeDenomination : left.feeDenomination = right.feeDenomination
  ledger : R left.ledger right.ledger

/-- Two steps cannot be told apart from outside, and their chains are related. -/
structure Step.Alike (R : Ledger → Ledger → Prop) (left right : Step) : Prop where
  reply : left.reply = right.reply
  events : left.events = right.events
  log : left.log = right.log
  chain : left.chain.Alike R right.chain

/-- Two outcomes cannot be told apart from outside, and their ledgers are related. -/
structure Outcome.Alike {ρ : Type} (R : Ledger → Ledger → Prop) (left right : Outcome ρ) :
    Prop where
  reply : left.reply = right.reply
  events : left.events = right.events
  log : left.log = right.log
  ledger : R left.ledger right.ledger

/-- The command overlooks what related ledgers differ in. -/
def Command.Overlooks (R : Ledger → Ledger → Prop) (command : Command) : Prop :=
  ∀ left right : Chain, left.Alike R right → (left.step command).Alike R (right.step command)

/-! ## Calls and transactions -/

namespace Ledger

variable {R : Ledger → Ledger → Prop} {left right : Ledger} {origin : Origin} {call : Call}

/-- Calls tell two ledgers apart by nothing but what is judged of them and what their events do. -/
theorem dispatch_alike (related : R left right)
    (judged : ∀ caller, origin = .signed caller → call.judge left caller = call.judge right caller)
    (carried : ∀ caller event, origin = .signed caller → call.judge left caller = .ok event →
      R (left.apply event) (right.apply event)) :
    (left.dispatch origin call).Alike R (right.dispatch origin call) := by
  cases origin with
  | signed caller =>
    have same := judged caller rfl
    cases found : call.judge left caller with
    | ok event =>
      have also : call.judge right caller = .ok event := same.symm.trans found
      rw [dispatch_of_judge_ok found, dispatch_of_judge_ok also]
      exact ⟨rfl, rfl, rfl, carried caller event rfl found⟩
    | error error =>
      have also : call.judge right caller = .error error := same.symm.trans found
      rw [dispatch_of_judge_error found, dispatch_of_judge_error also]
      exact ⟨rfl, rfl, rfl, related⟩
  | root | unsigned => exact ⟨rfl, rfl, rfl, related⟩

/-- Transactions tell two ledgers apart by nothing but their screening and what they carry. -/
theorem submit_alike {feeDenomination : Denomination} {payload : Payload}
    {intents : List (Intent Account Denomination)} (related : R left right)
    (screened : left.validate feeDenomination origin intents =
      right.validate feeDenomination origin intents)
    (carried : (left.carryOutPayload origin payload).Alike R
      (right.carryOutPayload origin payload)) :
    (left.submit feeDenomination origin payload intents).Alike R
      (right.submit feeDenomination origin payload intents) := by
  simp only [submit, screened]
  split
  · exact ⟨rfl, rfl, rfl, related⟩
  · exact ⟨rfl, rfl, rfl, related⟩
  · refine ⟨congrArg Except.ok carried.reply, carried.events, ?_, carried.ledger⟩
    simp only [carried.log]

end Ledger

namespace Chain

variable {R : Ledger → Ledger → Prop} {left right : Chain} {commands : List Command}

/-! ## Runs -/

theorem run_alike (overlooked : ∀ command ∈ commands, command.Overlooks R)
    (alike : left.Alike R right) :
    List.Forall₂ (Step.Alike R) (left.run commands) (right.run commands) := by
  induction commands generalizing left right with
  | nil => exact .nil
  | cons command rest ih =>
    have first := overlooked command List.mem_cons_self left right alike
    have others : ∀ other ∈ rest, other.Overlooks R :=
      fun other member => overlooked other (List.mem_cons_of_mem _ member)
    exact .cons first (ih others first.chain)

theorem after_alike (overlooked : ∀ command ∈ commands, command.Overlooks R)
    (alike : left.Alike R right) : (left.after commands).Alike R (right.after commands) := by
  induction commands generalizing left right with
  | nil => exact alike
  | cons command rest ih =>
    have first := overlooked command List.mem_cons_self left right alike
    have others : ∀ other ∈ rest, other.Overlooks R :=
      fun other member => overlooked other (List.mem_cons_of_mem _ member)
    exact ih others first.chain

/-! ## Commands -/

/-- A step that only looks differs in what it saw alone. -/
theorem observed_alike (alike : left.Alike R right) (reply : Reply) (log : List LogLine) :
    (left.observed reply log).Alike R (right.observed reply log) := ⟨rfl, rfl, rfl, alike⟩

theorem settled_alike {ρ : Type} {former latter : Outcome ρ} (alike : left.Alike R right)
    (outcomes : former.Alike R latter) (view : ρ → Reply) :
    (left.settled former view).Alike R (right.settled latter view) :=
  ⟨congrArg view outcomes.reply, outcomes.events, outcomes.log, alike.feeDenomination,
    outcomes.ledger⟩

/-- Calls tell two chains apart by nothing but what is judged of them and what their events do. -/
theorem overlooks_dispatch {origin : Origin} {call : Call}
    (judged : ∀ {left right : Ledger} {caller : Account}, R left right → origin = .signed caller →
      call.judge left caller = call.judge right caller)
    (carried : ∀ {left right : Ledger} {caller : Account} {event : Event}, R left right →
      origin = .signed caller → call.judge left caller = .ok event →
      R (left.apply event) (right.apply event)) :
    (Command.dispatch origin call).Overlooks R := by
  intro left right alike
  apply settled_alike alike
  exact Ledger.dispatch_alike alike.ledger (fun _ => judged alike.ledger)
    fun _ _ => carried alike.ledger

end Chain

end Stablecoin
