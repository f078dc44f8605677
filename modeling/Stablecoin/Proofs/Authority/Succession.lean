import Stablecoin.Proofs.Authority.Coalition
import Stablecoin.Proofs.Genesis.Build
import Stablecoin.Proofs.Ledger.Memory
import Stablecoin.SampleHost

/-! # How the ownership is handed over

The ownership changes hands in two steps: the owner offers it, and the candidate takes it. The
ledger stores the candidate alone; who made the offer is told by the events only. While an offer
stands, nobody but its maker can be the owner, so whoever takes the ownership takes up the last
offer, from the account that made it. A seat that was filled is never vacated but for the one of the
candidate, and without an owner nobody fills any.
-/

namespace Stablecoin

/-- The event is a step in handing over the ownership: an offer of it, or its acceptance. -/
def Event.handsOver : Event → Bool
  | .ownershipOffered _ _ | .ownershipAccepted _ _ => true
  | _ => false

/-- The last step in handing over the ownership was its offer by `owner` to `candidate`. -/
def StandingOffer (history : List Event) (owner candidate : Account) : Prop :=
  ∃ earlier later, history = earlier ++ .ownershipOffered owner candidate :: later ∧
    ∀ event ∈ later, event.handsOver = false

section StandingOffer

variable {history : List Event} {event : Event} {owner candidate : Account}

theorem not_standingOffer_nil : ¬ StandingOffer [] owner candidate := by
  rintro ⟨earlier, later, parts, _⟩
  simp at parts

/-- An event makes an offer stand, or it leaves the one alone that stood before. -/
theorem standingOffer_concat_iff :
    StandingOffer (history ++ [event]) owner candidate ↔
      event = .ownershipOffered owner candidate ∨
        event.handsOver = false ∧ StandingOffer history owner candidate := by
  constructor
  · rintro ⟨earlier, later, parts, aside⟩
    obtain rfl | ⟨others, last, rfl⟩ := List.eq_nil_or_concat later
    · exact .inl (List.append_singleton_inj.mp parts).2
    · rw [List.concat_eq_append, ← List.cons_append, ← List.append_assoc,
        List.append_singleton_inj] at parts
      obtain ⟨rfl, rfl⟩ := parts
      rw [List.concat_eq_append, List.forall_mem_append, List.forall_mem_singleton] at aside
      exact .inr ⟨aside.2, earlier, others, rfl, aside.1⟩
  · rintro (rfl | ⟨aside, earlier, later, rfl, others⟩)
    · exact ⟨history, [], rfl, List.forall_mem_nil _⟩
    · refine ⟨earlier, later ++ [event], by simp, ?_⟩
      rw [List.forall_mem_append, List.forall_mem_singleton]
      exact ⟨others, aside⟩

end StandingOffer

namespace Ledger

variable {past history : List Event} {ledger current final : Ledger} {caller : Account}
  {event : Event} {seat : Seat}

/-- The ownership is on offer to whom the last offer names, by the owner whom it names. -/
structure KeepsOffer (history : List Event) (ledger : Ledger) : Prop where
  candidate : ∀ who, ledger.roles.pendingOwner = some who ↔ ∃ owner, StandingOffer history owner who
  owner : ∀ owner who, StandingOffer history owner who → ledger.roles.owner = some owner

namespace KeepsOffer

theorem of_nobody (nobody : ledger.roles.pendingOwner = none) : KeepsOffer [] ledger where
  candidate who := by simp [nobody, not_standingOffer_nil]
  owner _ _ standing := absurd standing not_standingOffer_nil

/-- The owner and the candidate change by the steps of a handover alone. -/
private theorem roles_apply_of_aside (ledger : Ledger) (aside : event.handsOver = false) :
    (ledger.apply event).roles.owner = ledger.roles.owner ∧
      (ledger.apply event).roles.pendingOwner = ledger.roles.pendingOwner := by
  cases event with
  | ownershipOffered | ownershipAccepted => contradiction
  | appointed office => cases office <;> exact ⟨rfl, rfl⟩
  | _ => exact ⟨rfl, rfl⟩

/-- A permitted event leaves the offer alone, replaces it by one of the present owner, or takes it
up. -/
theorem apply (keeps : KeepsOffer past current) (permitted : current.Permits caller event) :
    KeepsOffer (past ++ [event]) (current.apply event) := by
  cases step : event.handsOver with
  | false =>
    obtain ⟨owner, pending⟩ := roles_apply_of_aside current step
    have standing : ∀ owner who,
        StandingOffer (past ++ [event]) owner who ↔ StandingOffer past owner who := by
      intro owner who
      rw [standingOffer_concat_iff]
      constructor
      · rintro (rfl | ⟨_, standing⟩)
        · contradiction
        · exact standing
      · exact fun standing => .inr ⟨step, standing⟩
    constructor
    · intro who
      rw [pending, keeps.candidate]
      simp only [standing]
    · intro maker who made
      rw [owner]
      exact keeps.owner maker who ((standing maker who).mp made)
  | true =>
    have standing : ∀ owner who, StandingOffer (past ++ [event]) owner who ↔
        event = .ownershipOffered owner who := by
      simp [standingOffer_concat_iff, step]
    cases event with
    | ownershipOffered owner candidate =>
      obtain ⟨seated, rfl⟩ := permitted
      constructor
      · intro who
        simp [standing, Ledger.apply, assign, Roles.assign]
      · intro maker who made
        cases (standing maker who).mp made
        exact seated
    | ownershipAccepted previous owner =>
      constructor
      · intro who
        simp [standing, Ledger.apply, assign, Roles.assign]
      · intro maker who made
        cases (standing maker who).mp made
    | _ => contradiction

theorem of_evolves {history : List SignedEvent} (keeps : KeepsOffer past current)
    (evolves : current.Evolves history final) :
    KeepsOffer (past ++ history.map (·.event)) final :=
  evolves.carries (fun _ _ _ permitted keeps => keeps.apply permitted) keeps

/-- An offer is taken up from the owner who made it. -/
theorem standing_of_accepted {previous : Option Account} {owner : Account}
    (keeps : KeepsOffer past current)
    (permitted : current.Permits caller (.ownershipAccepted previous owner)) :
    ∃ former, previous = some former ∧ StandingOffer past former owner := by
  obtain ⟨candidate, rfl, rfl⟩ := permitted
  obtain ⟨former, standing⟩ := (keeps.candidate owner).mp candidate
  exact ⟨former, keeps.owner former owner standing, standing⟩

end KeepsOffer

/-! ## Seats that stay filled, and seats that nobody fills -/

/-- Only the seat of the candidate is ever vacated. -/
theorem isSome_holder_apply (lasting : seat ≠ .pendingOwner)
    (filled : (ledger.roles.holder seat).isSome) :
    ((ledger.apply event).roles.holder seat).isSome := by
  have told := tracks_holder seat ledger event
  dsimp only at told
  rw [told]
  cases event with
  | ownershipOffered owner candidate =>
    rw [Event.seats?, if_neg lasting]
    exact filled
  | ownershipAccepted previous owner =>
    cases seat with
    | owner => rfl
    | pendingOwner => contradiction
    | office => exact filled
  | appointed office previous holder =>
    rw [Event.seats?]
    split
    · rfl
    · exact filled
  | _ => exact filled

theorem Evolves.isSome_holder {history : List SignedEvent}
    (evolves : ledger.Evolves history final) (lasting : seat ≠ .pendingOwner)
    (filled : (ledger.roles.holder seat).isSome) : (final.roles.holder seat).isSome := by
  refine evolves.preserves (P := fun current => (current.roles.holder seat).isSome) ?_ filled
  intro current signed _ _ filled
  exact isSome_holder_apply lasting filled

/-- Without an owner, and with the ownership on offer to nobody, no seat changes hands. -/
theorem Evolves.roles_of_vacant {history : List SignedEvent}
    (evolves : ledger.Evolves history final) (noOwner : ledger.roles.owner = none)
    (noCandidate : ledger.roles.pendingOwner = none) : final.roles = ledger.roles := by
  refine evolves.preserves (P := fun current => current.roles = ledger.roles) ?_ rfl
  intro current signed _ permitted same
  rw [permitted.roles_apply, same]
  · simp [same, noOwner]
  · simp [same, noCandidate]

/-- Nobody but the candidate takes the ownership. -/
theorem dispatch_acceptOwnership_of_ne {who : Account}
    (other : ledger.roles.pendingOwner ≠ some who) :
    ledger.dispatch (.signed who) .acceptOwnership =
      ⟨.error (.refused .notPendingOwner), [], [], ledger⟩ := by
  apply dispatch_of_judge_error
  have refused : ledger.requireSeat .pendingOwner who = .error (.refused .notPendingOwner) :=
    if_neg other
  rw [Call.judge, refused]
  rfl

end Ledger

/-- From an accepted genesis on, an acceptance takes up the last offer, which the account that is
still the owner made. -/
theorem ownership_succession {genesis : Genesis} {ledger : Ledger}
    (built : genesis.build = .ok ledger) (feeDenomination : Denomination)
    {commands : List Command} (regular : ∀ command ∈ commands, command.Regular) :
    let chain : Chain := ⟨ledger, feeDenomination⟩
    let history := chain.deposited commands
    let reached := (chain.after commands).ledger
    (∀ candidate, reached.roles.pendingOwner = some candidate →
      ∃ owner, reached.roles.owner = some owner ∧ StandingOffer history owner candidate) ∧
    (∀ earlier previous owner later,
      history = earlier ++ .ownershipAccepted previous owner :: later →
      ∃ former, previous = some former ∧ StandingOffer earlier former owner) ∧
    (∀ who, (∀ owner, ¬ StandingOffer history owner who) →
      reached.dispatch (.signed who) .acceptOwnership =
        ⟨.error (.refused .notPendingOwner), [], [], reached⟩ ∧
      ∀ fee intents,
        let submitted := reached.submit fee (.signed who) (.call .acceptOwnership) intents
        (∃ invalidity, submitted.reply = .error invalidity) ∨
          submitted.reply = .ok (.error (.refused .notPendingOwner))) ∧
    (∀ past, past <+: commands → ∀ seat ≠ .pendingOwner,
      ((chain.after past).ledger.roles.holder seat).isSome → (reached.roles.holder seat).isSome) ∧
    (genesis.owner = none → reached.roles =
      ⟨none, none, genesis.masterMinter, genesis.pauser, genesis.blacklister⟩) := by
  intro chain history reached
  have evolves : ledger.Evolves (chain.history commands) reached := chain.evolves_history regular
  have told : (chain.history commands).map (·.event) = history := chain.map_event_history regular
  have first : ledger.roles = genesis.roles := Genesis.roles_of_build built
  have nobody : Ledger.KeepsOffer [] ledger := .of_nobody (by rw [first]; rfl)
  have keeps : Ledger.KeepsOffer history reached := told ▸ nobody.of_evolves evolves
  refine ⟨?_, ?_, ?_, ?_, ?_⟩
  · intro candidate pending
    obtain ⟨owner, standing⟩ := (keeps.candidate candidate).mp pending
    exact ⟨owner, keeps.owner owner candidate standing, standing⟩
  · intro earlier previous owner later parts
    -- The acceptance was permitted by the ledger that the events before it led to.
    obtain ⟨before, others, parts, rfl, tail⟩ := List.map_eq_append_iff.mp (told.trans parts)
    obtain ⟨signed, after, rfl, same, _⟩ := List.map_eq_cons_iff.mp tail
    rw [parts] at evolves
    obtain ⟨middle, seen, ahead⟩ := evolves.split
    cases ahead with
    | cons permitted _ => exact (nobody.of_evolves seen).standing_of_accepted (same ▸ permitted)
  · intro who none
    have other : reached.roles.pendingOwner ≠ some who := by
      rw [ne_eq, keeps.candidate who, not_exists]
      exact none
    have refused := Ledger.dispatch_acceptOwnership_of_ne other
    refine ⟨refused, ?_⟩
    intro fee intents submitted
    obtain done | ⟨invalidity, stopped⟩ :=
      reached.submit_cases fee (.signed who) (.call .acceptOwnership) intents
    · right
      simp only [submitted, done, Ledger.carryOutPayload, refused]
    · left
      exact ⟨invalidity, congrArg Outcome.reply stopped⟩
  · rintro past ⟨next, rfl⟩ seat lasting filled
    have later : ∀ command ∈ next, command.Regular :=
      fun command member => regular command (List.mem_append_right past member)
    have onward := (chain.after past).evolves_history later
    rw [← Chain.after_append] at onward
    exact onward.isSome_holder lasting filled
  · intro noOwner
    have vacant : ledger.roles.owner = none := by rw [first]; exact noOwner
    rw [evolves.roles_of_vacant vacant (by rw [first]; rfl), first, Genesis.roles, noOwner]

open SampleHost in
/-- An offer to bob displaces one to alice, and bob takes it in a transaction; without an owner
there is none. -/
theorem ownership_succession_of_displaced_candidate :
    let offering : List Command :=
      [.dispatch (.signed owner) (.offerOwnership alice),
        .dispatch (.signed owner) (.offerOwnership bob)]
    let commands := offering ++ [.submit (.signed bob) (.call .acceptOwnership) []]
    let offers : List Event := [.ownershipOffered owner alice, .ownershipOffered owner bob]
    let offered := (firstChain.after offering).ledger
    let ownerless : Ledger := firstLedger.assign .owner none
    offered.roles.pendingOwner = some bob ∧
      (∃ maker, offered.roles.owner = some maker ∧ StandingOffer offers maker bob) ∧
      offered.dispatch (.signed alice) .acceptOwnership =
        ⟨.error (.refused .notPendingOwner), [], [], offered⟩ ∧
      (∃ former, some owner = some former ∧ StandingOffer offers former bob) ∧
      ((firstChain.after commands).ledger.roles.holder .owner).isSome ∧
      (Chain.after ⟨ownerless, controlled⟩ commands).ledger.roles =
        ⟨none, none, some masterMinter, some pauser, some blacklister⟩ := by
  intro offering commands offers offered ownerless
  have regular : ∀ command ∈ commands, command.Regular := by decide
  have early : ∀ command ∈ offering, command.Regular := by decide
  have told : firstChain.deposited offering = offers := by decide +kernel
  have taken : firstChain.deposited commands = offers ++ [.ownershipAccepted (some owner) bob] := by
    decide +kernel
  have pending : offered.roles.pendingOwner = some bob := by decide +kernel
  obtain ⟨stands, _, refuses, _⟩ := ownership_succession build_genesis otherDenomination early
  obtain ⟨_, takes, _, lasts, _⟩ := ownership_succession build_genesis otherDenomination regular
  have built : { genesis with owner := none }.build = .ok ownerless := rfl
  obtain ⟨_, _, _, _, vacant⟩ := ownership_succession built controlled regular
  have displaced : ∀ maker, ¬ StandingOffer (firstChain.deposited offering) maker alice := by
    rw [told]
    intro maker standing
    obtain same | ⟨aside, _⟩ := standingOffer_concat_iff.mp
      (show StandingOffer ([.ownershipOffered owner alice] ++ [.ownershipOffered owner bob]) _ _
        from standing)
    · injection same with _ same
      exact absurd same (by decide)
    · contradiction
  refine ⟨pending, ?_, (refuses alice displaced).1, ?_, ?_, vacant rfl⟩
  · exact told ▸ stands bob pending
  · exact takes offers (some owner) bob [] taken
  · exact lasts [] (List.nil_prefix) .owner (by decide) rfl

end Stablecoin
