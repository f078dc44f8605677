import Stablecoin.Proofs.Chain.Evolution

/-! # The calls that a history carries out

Each command of a history makes its call in the state in which its turn comes, and the call succeeds
there or not. The calls that succeed are those that the events of the history record, one for one,
so a call that never succeeds has no event.
-/

namespace Stablecoin

/-- A command that makes a call does not write past the checks. -/
theorem Command.regular_of_call? {command : Command} {call : Call}
    (calls : command.call? = some call) : command.Regular := by
  cases command with
  | vacate | writeMinter => contradiction
  | _ => trivial

namespace Chain

variable {chain : Chain} {command : Command} {commands : List Command}

instance : Decidable (chain.CarriesOut command) := inferInstanceAs (Decidable (_ ∧ _))

/-- A command that carries a call out advances the chain by an event that records this call. -/
theorem CarriesOut.advances {call : Call} (carries : chain.CarriesOut command)
    (calls : command.call? = some call) :
    ∃ signer event, event.call = call ∧ chain.Advances command signer event := by
  obtain ⟨signer, event, advances⟩ | rests := chain.step_cases (Command.regular_of_call? calls)
  · exact ⟨signer, event, Option.some.inj (advances.called.symm.trans calls), advances⟩
  · exact absurd carries rests.idle

/-- The calls that a history of commands carries out, oldest first. -/
def achieved (chain : Chain) : List Command → List Call
  | [] => []
  | command :: rest =>
      (if chain.CarriesOut command then command.call?.toList else []) ++
        (chain.step command).chain.achieved rest

theorem achieved_append (chain : Chain) (first second : List Command) :
    chain.achieved (first ++ second) =
      chain.achieved first ++ (chain.after first).achieved second := by
  induction first generalizing chain with
  | nil => rfl
  | cons command rest ih =>
    rw [List.cons_append, achieved, achieved, ih, List.append_assoc]
    rfl

/-- What was carried out early in a history was carried out in it. -/
theorem achieved_subset {past : List Command} (within : past <+: commands) :
    chain.achieved past ⊆ chain.achieved commands := by
  obtain ⟨next, rfl⟩ := within
  rw [achieved_append]
  exact List.subset_append_left _ _

/-- The calls that a regular history carries out are those that its events record. -/
theorem map_call_history (chain : Chain) (regular : ∀ command ∈ commands, command.Regular) :
    (chain.history commands).map (·.event.call) = chain.achieved commands := by
  induction commands generalizing chain with
  | nil => rfl
  | cons command rest ih =>
    have others := ih (chain.step command).chain fun other member =>
      regular other (List.mem_cons_of_mem _ member)
    rw [history, achieved, List.map_append, others]
    obtain ⟨signer, event, advances⟩ | rests :=
      chain.step_cases (regular command List.mem_cons_self)
    · rw [advances.deposits, if_pos advances.carriesOut, advances.called]
      rfl
    · rw [rests.deposits, if_neg rests.idle]
      rfl

/-- The call of every event of a regular history is one that the history carries out. -/
theorem call_mem_achieved (regular : ∀ command ∈ commands, command.Regular) {signed : SignedEvent}
    (member : signed ∈ chain.history commands) : signed.event.call ∈ chain.achieved commands := by
  rw [← chain.map_call_history regular]
  exact List.mem_map_of_mem member

/-- What the events of allowed calls preserve holds in every state that a regular history reaches,
as long as it carries out allowed calls only. -/
theorem preserves_of_allowed {P : Ledger → Prop} {allowed : Call → Prop}
    (step : ∀ (current : Ledger) (caller : Account) (event : Event),
      current.Permits caller event → allowed event.call → P current → P (current.apply event))
    (regular : ∀ command ∈ commands, command.Regular)
    (kept : ∀ call ∈ chain.achieved commands, allowed call) (initial : P chain.ledger)
    {past : List Command} (within : past <+: commands) : P (chain.after past).ledger := by
  have early : ∀ command ∈ past, command.Regular :=
    fun command member => regular command (within.subset member)
  refine (chain.evolves_history early).preserves ?_ initial
  intro current signed member permitted holds
  have achieved := achieved_subset within (call_mem_achieved early member)
  exact step current signed.signer signed.event permitted (kept _ achieved) holds

end Chain

end Stablecoin
