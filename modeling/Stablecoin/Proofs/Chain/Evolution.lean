import Stablecoin.Chain.History
import Stablecoin.Proofs.Ledger.Permission
import Stablecoin.Proofs.Ledger.Screening

/-! # How a chain evolves

A ledger evolves through a history of events, each of which it permitted when it was deposited.
`Chain.step_cases` says all that a regular command can do: it carries out a call and deposits the
one event that tells of it, or it leaves the ledger as it was. Hence the ledger of every history of
regular commands evolves through the events of that history, and whatever one permitted event
preserves is preserved by the whole history.
-/

namespace Stablecoin

/-- A ledger goes over into another through events that are permitted one after the other. -/
inductive Ledger.Evolves : Ledger → List SignedEvent → Ledger → Prop
  | nil (ledger : Ledger) : Evolves ledger [] ledger
  | cons {ledger final : Ledger} {signed : SignedEvent} {rest : List SignedEvent} :
      ledger.Permits signed.signer signed.event →
      Evolves (ledger.apply signed.event) rest final → Evolves ledger (signed :: rest) final

namespace Ledger.Evolves

variable {ledger middle final : Ledger} {first second : List SignedEvent} {signed : SignedEvent}

theorem single (permitted : ledger.Permits signed.signer signed.event) :
    Evolves ledger [signed] (ledger.apply signed.event) := .cons permitted (.nil _)

theorem append (left : Evolves ledger first middle) (right : Evolves middle second final) :
    Evolves ledger (first ++ second) final := by
  induction left with
  | nil => exact right
  | cons permitted _ ih => exact .cons permitted (ih right)

/-- Somewhere between its ends the ledger has seen a given part of the history. -/
theorem split {ledger : Ledger} : ∀ {first : List SignedEvent},
    Evolves ledger (first ++ second) final →
    ∃ middle, Evolves ledger first middle ∧ Evolves middle second final
  | [], evolves => ⟨ledger, .nil ledger, evolves⟩
  | _ :: _, .cons permitted evolves => by
    obtain ⟨middle, seen, ahead⟩ := split evolves
    exact ⟨middle, .cons permitted seen, ahead⟩

/-- The history alone tells where the ledger ends. -/
theorem eq_replay (evolves : Evolves ledger first final) :
    final = ledger.replay (first.map (·.event)) := by
  induction evolves with
  | nil => rfl
  | cons _ _ ih => exact ih

/-- What every permitted event of a history preserves, the history preserves. -/
theorem preserves {P : Ledger → Prop} (evolves : Evolves ledger first final)
    (step : ∀ current : Ledger, ∀ signed ∈ first, current.Permits signed.signer signed.event →
      P current → P (current.apply signed.event))
    (initial : P ledger) : P final := by
  induction evolves with
  | nil => exact initial
  | cons permitted _ ih =>
    apply ih
    · intro current signed member
      exact step current signed (List.mem_cons_of_mem _ member)
    · exact step _ _ List.mem_cons_self permitted initial

/-- What ties a ledger to the events before it ties the last ledger to the whole history, when every
permitted event carries it on. -/
theorem carries {P : List Event → Ledger → Prop} (evolves : Evolves ledger first final)
    (step : ∀ (past : List Event) (current : Ledger) (signed : SignedEvent),
      current.Permits signed.signer signed.event → P past current →
      P (past ++ [signed.event]) (current.apply signed.event))
    {past : List Event} (initial : P past ledger) : P (past ++ first.map (·.event)) final := by
  induction evolves generalizing past with
  | nil =>
    rw [List.map_nil, List.append_nil]
    exact initial
  | cons permitted _ ih =>
    have tied := ih (step past _ _ permitted initial)
    rw [List.append_assoc] at tied
    exact tied

end Ledger.Evolves

/-- The call that a command makes, directly or in a transaction. -/
def Command.call? : Command → Option Call
  | .dispatch _ call | .submit _ (.call call) _ => some call
  | _ => none

/-- The reply tells of a success. -/
def Reply.succeeded : Reply → Bool
  | .done (.ok ()) | .submitted (.ok (.ok ())) => true
  | _ => false

namespace Ledger

/-- A call of `caller` went through and caused an event. -/
structure Enacts (ledger : Ledger) (caller : Account) (event : Event)
    (outcome : Outcome (Except CallError Unit)) : Prop where
  permitted : ledger.Permits caller event
  outcome : outcome = ⟨.ok (), [event], (event.notice? caller).toList, ledger.apply event⟩

/-- A dispatched call either goes through or leaves nothing behind. -/
theorem dispatch_cases (ledger : Ledger) (origin : Origin) (call : Call) :
    (∃ caller event, origin = .signed caller ∧ event.call = call ∧
      ledger.Enacts caller event (ledger.dispatch origin call)) ∨
    ∃ error, ledger.dispatch origin call = ⟨.error error, [], [], ledger⟩ := by
  cases origin with
  | signed caller =>
    cases judged : call.judge ledger caller with
    | ok event =>
      left
      obtain ⟨own, permitted⟩ := Call.judge_eq_ok_iff.mp judged
      exact ⟨caller, event, rfl, own, permitted, dispatch_of_judge_ok judged⟩
    | error error => exact .inr ⟨error, dispatch_of_judge_error judged⟩
  | root => exact .inr ⟨_, dispatch_of_not_signed (by simp)⟩
  | unsigned => exact .inr ⟨_, dispatch_of_not_signed (by simp)⟩

/-- A submitted transaction either is carried out or changes nothing and deposits nothing. -/
theorem submit_cases (ledger : Ledger) (feeDenomination : Denomination) (origin : Origin)
    (payload : Payload) (intents : List (Intent Account Denomination)) :
    let screened := ledger.validate feeDenomination origin intents
    let done := ledger.carryOutPayload origin payload
    ledger.submit feeDenomination origin payload intents =
      ⟨.ok done.reply, done.events, screened.log ++ done.log, done.ledger⟩ ∨
    ∃ invalidity, ledger.submit feeDenomination origin payload intents =
      ⟨.error invalidity, [], screened.log, ledger⟩ := by
  simp only [submit]
  split
  · exact .inr ⟨_, rfl⟩
  · exact .inr ⟨_, rfl⟩
  · exact .inl rfl

end Ledger

namespace Chain

variable (chain : Chain) (command : Command)

/-- Everything that a history of commands deposits, oldest first and whoever signed it. -/
def deposited (commands : List Command) : List Event := (chain.run commands).flatMap (·.events)

/-- The command makes a call, and the call succeeds. -/
def CarriesOut : Prop := command.call?.isSome ∧ (chain.step command).reply.succeeded

/-- The command carries out a call of `signer`, and its one event tells all that changed. -/
structure Advances (signer : Account) (event : Event) : Prop where
  signed : command.signer? = some signer
  called : command.call? = some event.call
  succeeded : (chain.step command).reply.succeeded
  permitted : chain.ledger.Permits signer event
  events : (chain.step command).events = [event]
  ledger : (chain.step command).chain.ledger = chain.ledger.apply event
  log : ∃ screening : List LogLine, (∀ line ∈ screening, line.level = "debug") ∧
    (chain.step command).log = screening ++ (event.notice? signer).toList

/-- The command carries out no call: it deposits nothing, leaves the ledger alone and writes no
other lines than screening does. -/
structure Rests : Prop where
  idle : ¬ chain.CarriesOut command
  events : (chain.step command).events = []
  ledger : (chain.step command).chain.ledger = chain.ledger
  log : ∀ line ∈ (chain.step command).log, line.level = "debug"

variable {chain command}

theorem Advances.carriesOut {signer : Account} {event : Event}
    (advances : chain.Advances command signer event) : chain.CarriesOut command :=
  ⟨by rw [advances.called]; rfl, advances.succeeded⟩

section Settled

variable {ρ : Type} {view : ρ → Reply} {reply : ρ} {log : List LogLine}

/-- A call advances the chain when the step settles on what its event tells. -/
theorem Advances.of_settled {signer : Account} {event : Event}
    (stepped : chain.step command = chain.settled
      ⟨reply, [event], log ++ (event.notice? signer).toList, chain.ledger.apply event⟩ view)
    (signed : command.signer? = some signer) (called : command.call? = some event.call)
    (succeeded : (view reply).succeeded) (permitted : chain.ledger.Permits signer event)
    (screening : ∀ line ∈ log, line.level = "debug") : chain.Advances command signer event where
  signed := signed
  called := called
  succeeded := by rw [stepped]; exact succeeded
  permitted := permitted
  events := by rw [stepped]; rfl
  ledger := by rw [stepped]; rfl
  log := ⟨log, screening, by rw [stepped]; rfl⟩

/-- A chain rests when the step settles on the ledger that was there. -/
theorem Rests.of_settled
    (stepped : chain.step command = chain.settled ⟨reply, [], log, chain.ledger⟩ view)
    (idle : ¬ (command.call?.isSome ∧ (view reply).succeeded))
    (screening : ∀ line ∈ log, line.level = "debug") : chain.Rests command where
  idle := by rw [CarriesOut, stepped]; exact idle
  events := by rw [stepped]; rfl
  ledger := by rw [stepped]; rfl
  log := by rw [stepped]; exact screening

end Settled

/-- A chain rests under a command that only looks at it. -/
theorem Rests.of_observed {reply : Reply} {log : List LogLine}
    (stepped : chain.step command = chain.observed reply log) (silent : command.call? = none)
    (screening : ∀ line ∈ log, line.level = "debug") : chain.Rests command where
  idle := fun ⟨calls, _⟩ => by simp [silent] at calls
  events := by rw [stepped]; rfl
  ledger := by rw [stepped]; rfl
  log := by rw [stepped]; exact screening

private theorem dispatch_cases (origin : Origin) (call : Call) :
    (∃ signer event, chain.Advances (.dispatch origin call) signer event) ∨
      chain.Rests (.dispatch origin call) := by
  obtain ⟨caller, event, rfl, rfl, enacted⟩ | ⟨error, failed⟩ :=
    chain.ledger.dispatch_cases origin call
  · left
    have stepped : chain.step (.dispatch (.signed caller) event.call) = chain.settled
        ⟨.ok (), [event], [] ++ (event.notice? caller).toList, chain.ledger.apply event⟩ .done :=
      congrArg (chain.settled · .done) enacted.outcome
    exact ⟨caller, event, .of_settled stepped rfl rfl rfl enacted.permitted (List.forall_mem_nil _)⟩
  · right
    have stepped := congrArg (chain.settled · .done) failed
    exact .of_settled stepped (by simp [Reply.succeeded]) (List.forall_mem_nil _)

private theorem submit_cases (origin : Origin) (payload : Payload)
    (intents : List (Intent Account Denomination)) :
    (∃ signer event, chain.Advances (.submit origin payload intents) signer event) ∨
      chain.Rests (.submit origin payload intents) := by
  have screening := chain.ledger.validate_debugs chain.feeDenomination origin intents
  obtain submitted | ⟨invalidity, submitted⟩ :=
    chain.ledger.submit_cases chain.feeDenomination origin payload intents
  · cases payload with
    | remark =>
      right
      simp only [Ledger.carryOutPayload, List.append_nil] at submitted
      have stepped := congrArg (chain.settled · .submitted) submitted
      exact .of_settled stepped (by simp [Command.call?]) screening
    | call call =>
      simp only [Ledger.carryOutPayload] at submitted
      obtain ⟨caller, event, rfl, rfl, enacted⟩ | ⟨error, failed⟩ :=
        chain.ledger.dispatch_cases origin call
      · left
        rw [enacted.outcome] at submitted
        have stepped := congrArg (chain.settled · .submitted) submitted
        exact ⟨caller, event, .of_settled stepped rfl rfl rfl enacted.permitted screening⟩
      · right
        rw [failed, List.append_nil] at submitted
        have stepped := congrArg (chain.settled · .submitted) submitted
        exact .of_settled stepped (by simp [Reply.succeeded]) screening
  · right
    have stepped := congrArg (chain.settled · .submitted) submitted
    exact .of_settled stepped (by simp [Reply.succeeded]) screening

/-- A regular command carries a call out, or it leaves the ledger alone. -/
theorem step_cases (chain : Chain) (regular : command.Regular) :
    (∃ signer event, chain.Advances command signer event) ∨ chain.Rests command := by
  cases command with
  | dispatch origin call => exact dispatch_cases origin call
  | submit origin payload intents => exact submit_cases origin payload intents
  | vacate _ => exact regular.elim
  | writeMinter _ _ => exact regular.elim
  | query query => exact .inr (.of_observed rfl rfl (List.forall_mem_nil _))
  | check hook => exact .inr (.of_observed rfl rfl (chain.ledger.checkHook_debugs hook))
  | checkIntent intent => exact .inr (.of_observed rfl rfl (chain.ledger.checkIntent_debugs intent))
  | validate origin intents =>
    exact .inr (.of_observed rfl rfl (chain.ledger.validate_debugs _ origin intents))
  | receive packet answer =>
    have screening := chain.ledger.screenInbound_debugs packet
    exact .inr (.of_observed rfl rfl (chain.ledger.log_receivePacket _ _ packet ▸ screening))
  | send caller packet taken =>
    have screening := chain.ledger.screenOutbound_debugs caller packet
    exact .inr (.of_observed rfl rfl (chain.ledger.log_sendPacket _ _ _ caller packet ▸ screening))
  | setFeeDenomination denomination =>
    exact .inr ⟨nofun, rfl, rfl, List.forall_mem_nil _⟩

/-- An event of a regular command tells all that the command changed. -/
theorem ledger_step_of_mem_events (regular : command.Regular) {event : Event}
    (deposited : event ∈ (chain.step command).events) :
    (chain.step command).chain.ledger = chain.ledger.apply event := by
  obtain ⟨signer, told, advances⟩ | rests := chain.step_cases regular
  · rw [advances.events, List.mem_singleton] at deposited
    rw [deposited, advances.ledger]
  · rw [rests.events] at deposited
    contradiction

theorem Advances.deposits {signer : Account} {event : Event}
    (advances : chain.Advances command signer event) :
    chain.deposits command = [⟨signer, event⟩] := by
  simp only [Chain.deposits, advances.signed, advances.events, List.map_cons, List.map_nil]

theorem Rests.deposits (rests : chain.Rests command) : chain.deposits command = [] := by
  unfold Chain.deposits
  split
  · rw [rests.events, List.map_nil]
  · rfl

/-- What a command deposits is permitted, and tells where the ledger went. -/
theorem evolves_deposits (chain : Chain) (regular : command.Regular) :
    chain.ledger.Evolves (chain.deposits command) (chain.step command).chain.ledger := by
  obtain ⟨signer, event, advances⟩ | rests := chain.step_cases regular
  · rw [advances.deposits, advances.ledger]
    exact .single advances.permitted
  · rw [rests.deposits, rests.ledger]
    exact .nil _

/-- Somebody signed every event that a regular command deposits. -/
theorem map_event_deposits (chain : Chain) (regular : command.Regular) :
    (chain.deposits command).map (·.event) = (chain.step command).events := by
  obtain ⟨signer, event, advances⟩ | rests := chain.step_cases regular
  · rw [advances.deposits, advances.events, List.map_cons, List.map_nil]
  · rw [rests.deposits, rests.events, List.map_nil]

/-- The ledger of a regular history evolves through the events of that history. -/
theorem evolves_history (chain : Chain) {commands : List Command}
    (regular : ∀ command ∈ commands, command.Regular) :
    chain.ledger.Evolves (chain.history commands) (chain.after commands).ledger := by
  induction commands generalizing chain with
  | nil => exact .nil _
  | cons command rest ih =>
    have first := chain.evolves_deposits (regular command List.mem_cons_self)
    have others := ih (chain.step command).chain fun other member =>
      regular other (List.mem_cons_of_mem _ member)
    exact first.append others

/-- Whoever appears in a history signed one of its commands. -/
theorem exists_signer?_of_mem_history {commands : List Command} {signed : SignedEvent}
    (member : signed ∈ chain.history commands) :
    ∃ command ∈ commands, command.signer? = some signed.signer := by
  induction commands generalizing chain with
  | nil => contradiction
  | cons command rest ih =>
    rw [history, List.mem_append] at member
    obtain now | later := member
    · refine ⟨command, List.mem_cons_self, ?_⟩
      unfold Chain.deposits at now
      split at now
      · next signer found =>
        obtain ⟨event, _, rfl⟩ := List.mem_map.mp now
        exact found
      · contradiction
    · obtain ⟨other, member, found⟩ := ih later
      exact ⟨other, List.mem_cons_of_mem _ member, found⟩

/-- Somebody signed every event of a regular history. -/
theorem map_event_history (chain : Chain) {commands : List Command}
    (regular : ∀ command ∈ commands, command.Regular) :
    (chain.history commands).map (·.event) = chain.deposited commands := by
  induction commands generalizing chain with
  | nil => rfl
  | cons command rest ih =>
    have first := chain.map_event_deposits (regular command List.mem_cons_self)
    have others := ih (chain.step command).chain fun other member =>
      regular other (List.mem_cons_of_mem _ member)
    rw [history, List.map_append, first, others]
    rfl

end Chain

end Stablecoin
