import Stablecoin.Proofs.Chain.Evolution
import Stablecoin.Proofs.Genesis.Build
import Stablecoin.Proofs.Ledger.Memory
import Stablecoin.SampleHost

/-! # The chain of authority

Every event is justified by the events before it and the genesis alone: whoever caused it had been
given the authority by the last event about it, or by the genesis when there is none. The authority
is delegated in four levels, from the owner to the holders of the offices, from the master minter to
controllers, from a controller to its minter, and from having a record to moving tokens.
-/

namespace Stablecoin

namespace Genesis

variable (genesis : Genesis)

/-- Who sits in a seat after a history of events. -/
def seated (history : List Event) (seat : Seat) : Option Account :=
  lastWord (·.seats? seat) history (genesis.roles.holder seat)

/-- The minter that a controller is in charge of after a history of events. -/
def charged (history : List Event) (controller : Account) : Option Account :=
  lastWord (·.charges? controller) history (genesis.minterOf? controller)

/-- Whether an account has a minter record after a history of events. -/
def enlisted (history : List Event) (minter : Account) : Bool :=
  lastWord (·.enlists? minter) history (genesis.allowance? minter).isSome

/-- What came before an event gave its signer the authority for it. -/
def Justifies (past : List Event) (signer : Account) : Event → Prop
  | .ownershipOffered owner _ => owner = signer ∧ genesis.seated past .owner = some signer
  | .ownershipAccepted _ owner => owner = signer ∧ genesis.seated past .pendingOwner = some signer
  | .appointed _ _ _ => genesis.seated past .owner = some signer
  | .blacklisted _ | .unblacklisted _ =>
      genesis.seated past (.office .blacklister) = some signer
  | .paused | .unpaused => genesis.seated past (.office .pauser) = some signer
  | .controllerAssigned _ _ | .controllerRemoved _ _ =>
      genesis.seated past (.office .masterMinter) = some signer
  | .minterConfigured controller minter _ | .minterRemoved controller minter =>
      controller = signer ∧ genesis.charged past controller = some minter
  | .minted minter _ _ | .burned minter _ => minter = signer ∧ genesis.enlisted past minter

variable {genesis} {ledger : Ledger} (built : genesis.build = .ok ledger) (history : List Event)

include built

theorem holder_replay (seat : Seat) :
    (ledger.replay history).roles.holder seat = genesis.seated history seat := by
  rw [(Ledger.tracks_holder seat).replay, roles_of_build built]
  rfl

theorem controllers_replay (controller : Account) :
    (ledger.replay history).controllers[controller]? = genesis.charged history controller := by
  rw [(Ledger.tracks_controller controller).replay, getElem?_controllers_of_build built]
  rfl

theorem minters_replay (minter : Account) :
    (ledger.replay history).minters[minter]?.isSome = genesis.enlisted history minter := by
  rw [(Ledger.tracks_record minter).replay, getElem?_minters_of_build built, Option.isSome_map]
  rfl

theorem enlisted_of_empowers {minter : Account} {record : MinterRecord}
    (power : (ledger.replay history).Empowers minter record) :
    genesis.enlisted history minter = true := by
  rw [← minters_replay built, (Ledger.activeMinter?_eq_some_iff.mp power.active).1]
  rfl

/-- What the ledger permits after a history, the history justifies. -/
theorem justifies_of_permits {signer : Account} {event : Event}
    (permitted : (ledger.replay history).Permits signer event) :
    genesis.Justifies history signer event := by
  have seated : ∀ seat, (ledger.replay history).roles.holder seat = some signer →
      genesis.seated history seat = some signer :=
    fun seat held => (holder_replay built history seat).symm.trans held
  have charged : ∀ controller minter,
      (ledger.replay history).controllers[controller]? = some minter →
      genesis.charged history controller = some minter :=
    fun controller _ found => (controllers_replay built history controller).symm.trans found
  cases event with
  | ownershipOffered => exact ⟨permitted.2, seated .owner permitted.1⟩
  | ownershipAccepted => exact ⟨permitted.2.1, seated .pendingOwner permitted.1⟩
  | appointed => exact seated .owner permitted.1
  | blacklisted | unblacklisted => exact seated (.office .blacklister) permitted.1
  | paused | unpaused => exact seated (.office .pauser) permitted
  | controllerAssigned => exact seated (.office .masterMinter) permitted
  | controllerRemoved => exact seated (.office .masterMinter) permitted.1
  | minterConfigured controller minter allowance =>
    obtain ⟨controls, rfl, _⟩ := permitted
    exact ⟨rfl, charged controller minter controls⟩
  | minterRemoved controller minter =>
    obtain ⟨controls, rfl, _⟩ := permitted
    exact ⟨rfl, charged controller minter controls⟩
  | minted minter recipient amount =>
    obtain ⟨rfl, _, ⟨_, power, _⟩, _⟩ := permitted
    exact ⟨rfl, enlisted_of_empowers built history power⟩
  | burned minter amount =>
    obtain ⟨rfl, ⟨_, power⟩, _⟩ := permitted
    exact ⟨rfl, enlisted_of_empowers built history power⟩

end Genesis

/-- Whoever caused an event had the authority by the last event about it, or else by the genesis. -/
theorem authority_justified {genesis : Genesis} {ledger : Ledger}
    (built : genesis.build = .ok ledger) (feeDenomination : Denomination)
    {commands : List Command} (regular : ∀ command ∈ commands, command.Regular) :
    let chain : Chain := ⟨ledger, feeDenomination⟩
    (chain.history commands).map (·.event) = chain.deposited commands ∧
    ∀ (past : List SignedEvent) (signed : SignedEvent) (later : List SignedEvent),
      chain.history commands = past ++ signed :: later →
      genesis.Justifies (past.map (·.event)) signed.signer signed.event := by
  intro chain
  refine ⟨chain.map_event_history regular, ?_⟩
  intro past signed later parts
  -- The event was permitted by the ledger between the two parts, which is the replay of the first.
  have evolves := chain.evolves_history regular
  rw [parts] at evolves
  obtain ⟨middle, seen, ahead⟩ := evolves.split
  rw [seen.eq_replay] at ahead
  cases ahead with
  | cons permitted _ => exact Genesis.justifies_of_permits built _ permitted

open SampleHost in
/-- Charlie mints on the sample host by the authority of bob, who has it from alice, who has it from
the owner. -/
theorem authority_justified_of_delegation :
    let commands : List Command :=
      [.dispatch (.signed owner) (.appoint .masterMinter alice),
        .dispatch (.signed masterMinter) (.assignController alice alice),
        .dispatch (.signed alice) (.assignController bob charlie),
        .submit (.signed bob) (.call (.configureMinter charlie 9)) [],
        .dispatch (.signed owner) (.offerOwnership bob), .dispatch (.signed bob) .acceptOwnership,
        .dispatch (.signed charlie) (.mint alice 4), .dispatch (.signed minter) (.burn 1)]
    let past : List Event :=
      [.appointed .masterMinter (some masterMinter) alice, .controllerAssigned bob charlie,
        .minterConfigured bob charlie 9, .ownershipOffered owner bob,
        .ownershipAccepted (some owner) bob]
    genesis.build = .ok firstLedger ∧
      firstChain.deposited commands = past ++ [.minted charlie alice 4, .burned minter 1] ∧
      genesis.Justifies (past.take 2) bob (.minterConfigured bob charlie 9) ∧
      genesis.Justifies past charlie (.minted charlie alice 4) ∧
      genesis.Justifies (past ++ [.minted charlie alice 4]) minter (.burned minter 1) := by
  intro commands past
  have history : Chain.history ⟨firstLedger, otherDenomination⟩ commands =
      [⟨owner, .appointed .masterMinter (some masterMinter) alice⟩,
        ⟨alice, .controllerAssigned bob charlie⟩, ⟨bob, .minterConfigured bob charlie 9⟩,
        ⟨owner, .ownershipOffered owner bob⟩, ⟨bob, .ownershipAccepted (some owner) bob⟩,
        ⟨charlie, .minted charlie alice 4⟩, ⟨minter, .burned minter 1⟩] := by decide +kernel
  have regular : ∀ command ∈ commands, command.Regular := by decide
  obtain ⟨deposited, justified⟩ :=
    authority_justified build_genesis otherDenomination regular
  rw [history] at deposited justified
  refine ⟨build_genesis, deposited.symm, ?_, ?_, ?_⟩
  · exact justified [_, _] _ _ rfl
  · exact justified [_, _, _, _, _] _ _ rfl
  · exact justified [_, _, _, _, _, _] _ _ rfl

end Stablecoin
