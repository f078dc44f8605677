import Mathlib.Algebra.BigOperators.Group.List.Basic
import Mathlib.Algebra.GroupWithZero.Nat
import Stablecoin.Proofs.Chain.Evolution
import Stablecoin.Proofs.Genesis.Build
import Stablecoin.Proofs.Ledger.Records
import Stablecoin.SampleHost

/-! # The ceiling on minting

A grant sets the allowance of a minter, in place of any earlier one. After it the minter creates
nothing that is not taken from the allowance, exactly, and nothing but another grant raises the
allowance again. So a minter never creates more than it was granted in all.

Sums over a history are natural numbers: they may exceed every word.
-/

namespace Stablecoin

namespace Event

/-- The allowance that an event grants to `minter`. -/
def grant? (minter : Account) : Event → Option Amount
  | .minterConfigured _ configured allowance => if configured = minter then some allowance else none
  | _ => none

/-- How much an event grants to `minter`. -/
def amountGranted (minter : Account) (event : Event) : Nat :=
  ((event.grant? minter).map UInt64.toNat).getD 0

/-- How much `minter` creates in an event. -/
def amountMinted (minter : Account) : Event → Nat
  | .minted spender _ amount => if spender = minter then amount.toNat else 0
  | _ => 0

end Event

/-- A quantity summed over the events of a history. -/
def total (quantity : Event → Nat) (history : List Event) : Nat := (history.map quantity).sum

/-- All that was granted to `minter` in a history. -/
def totalGranted (minter : Account) (history : List Event) : Nat :=
  total (·.amountGranted minter) history

/-- All that `minter` created in a history. -/
def totalMinted (minter : Account) (history : List Event) : Nat :=
  total (·.amountMinted minter) history

/-- The last grant to `minter` in a history is one of `allowance`, and `recent` happened since. -/
def LastGrant (minter : Account) (history : List Event) (allowance : Amount)
    (recent : List Event) : Prop :=
  (∃ earlier event, history = earlier ++ event :: recent ∧ event.grant? minter = some allowance) ∧
    ∀ event ∈ recent, event.grant? minter = none

namespace Ledger

variable {ledger final : Ledger} {caller minter : Account} {event : Event}

/-- What is created is taken from the record that was there before. -/
theorem Permits.record_before (permitted : ledger.Permits caller event)
    (noGrant : event.grant? minter = none) {record : MinterRecord}
    (after : (ledger.apply event).minters[minter]? = some record) :
    ∃ former, ledger.minters[minter]? = some former ∧
      record.allowance.toNat + event.amountMinted minter = former.allowance.toNat := by
  cases event with
  | minterConfigured controller configured allowance =>
    simp only [Event.grant?, ite_eq_right_iff, reduceCtorEq, imp_false] at noGrant
    rw [getElem?_minters_apply, Event.updateRecord, if_neg noGrant] at after
    exact ⟨record, after, rfl⟩
  | minterRemoved controller removed =>
    rw [getElem?_minters_apply, Event.updateRecord] at after
    split at after
    · contradiction
    · exact ⟨record, after, rfl⟩
  | minted spender recipient amount =>
    rw [Event.amountMinted]
    split
    · next own =>
      subst own
      obtain ⟨former, later, before, now, _, spent⟩ := permitted.spends
      rw [now, Option.some.injEq] at after
      exact ⟨former, before, after ▸ spent⟩
    · next other =>
      rw [getElem?_minters_apply_of_ne other] at after
      exact ⟨record, after, rfl⟩
  | _ => exact ⟨record, after, rfl⟩

/-- A grant leaves an active record with the allowance that it grants. -/
theorem getElem?_minters_of_grant {allowance : Amount} (ledger : Ledger)
    (granted : event.grant? minter = some allowance) :
    (ledger.apply event).minters[minter]? = some ⟨allowance, true⟩ := by
  cases event with
  | minterConfigured controller configured given =>
    obtain ⟨rfl, ⟨⟩⟩ := Option.ite_none_right_eq_some.mp granted
    rw [getElem?_minters_apply, Event.updateRecord, if_pos rfl]
  | _ => contradiction

/-- Nobody creates more than its allowance. -/
theorem Permits.amountMinted_le (permitted : ledger.Permits caller event) (minter : Account) :
    event.amountMinted minter ≤ ledger.allowanceOf minter := by
  cases event with
  | minted spender recipient amount =>
    rw [Event.amountMinted]
    split
    · next own =>
      subst own
      obtain ⟨former, later, before, _, _, spent⟩ := permitted.spends
      rw [allowanceOf, before, Option.map_some, Option.getD_some]
      omega
    · exact Nat.zero_le _
  | _ => exact Nat.zero_le _

/-- An allowance grows by no more than what is granted, less what is created. -/
theorem Permits.allowanceOf_apply_le (permitted : ledger.Permits caller event)
    (minter : Account) :
    (ledger.apply event).allowanceOf minter + event.amountMinted minter ≤
      ledger.allowanceOf minter + event.amountGranted minter := by
  cases granted : event.grant? minter with
  | some allowance =>
    have after := ledger.getElem?_minters_of_grant granted
    have nothing : event.amountMinted minter = 0 := by
      cases event with
      | minted => contradiction
      | _ => rfl
    simp only [allowanceOf, after, nothing, Event.amountGranted, granted, Option.map_some,
      Option.getD_some]
    omega
  | none =>
    have covered := permitted.amountMinted_le minter
    cases after : (ledger.apply event).minters[minter]? with
    | some record =>
      obtain ⟨former, before, spent⟩ := permitted.record_before granted after
      simp only [allowanceOf, before, after, Option.map_some, Option.getD_some]
      omega
    | none =>
      simp only [allowanceOf, after, Option.map_none, Option.getD_none] at covered ⊢
      omega

/-- As long as nothing is granted, what is created is taken from the record that was there at
first. -/
theorem Evolves.record_before {history : List SignedEvent} (evolves : ledger.Evolves history final)
    (noGrant : ∀ event ∈ history.map (·.event), event.grant? minter = none)
    {record : MinterRecord} (after : final.minters[minter]? = some record) :
    ∃ former, ledger.minters[minter]? = some former ∧
      record.allowance.toNat + totalMinted minter (history.map (·.event)) =
        former.allowance.toNat := by
  induction evolves with
  | nil => exact ⟨record, after, rfl⟩
  | @cons _ _ signed rest permitted _ ih =>
    rw [List.map_cons, List.forall_mem_cons] at noGrant
    obtain ⟨former, between, spentLater⟩ := ih noGrant.2 after
    obtain ⟨first, before, spentFirst⟩ := permitted.record_before noGrant.1 between
    refine ⟨first, before, ?_⟩
    simp only [totalMinted, total, List.map_cons, List.sum_cons] at spentLater ⊢
    omega

/-- After a grant, what is created is taken from the allowance that was granted. -/
theorem Evolves.allowance_of_lastGrant {history : List SignedEvent} {recent : List Event}
    {allowance : Amount} (evolves : ledger.Evolves history final)
    (last : LastGrant minter (history.map (·.event)) allowance recent)
    {record : MinterRecord} (after : final.minters[minter]? = some record) :
    record.allowance.toNat + totalMinted minter recent = allowance.toNat := by
  obtain ⟨⟨earlier, event, parts, granted⟩, noGrant⟩ := last
  obtain ⟨first, others, rfl, rfl, tail⟩ := List.map_eq_append_iff.mp parts
  obtain ⟨signed, others, rfl, rfl, rfl⟩ := List.map_eq_cons_iff.mp tail
  obtain ⟨_, _, evolves⟩ := evolves.split
  cases evolves with
  | cons _ evolves =>
    obtain ⟨former, before, spent⟩ := evolves.record_before noGrant after
    rw [getElem?_minters_of_grant _ granted, Option.some.injEq] at before
    rw [spent, ← before]

/-- Nothing is created that was not allowed at first or granted since. -/
theorem Evolves.totalMinted_le {history : List SignedEvent}
    (evolves : ledger.Evolves history final) (minter : Account) :
    final.allowanceOf minter + totalMinted minter (history.map (·.event)) ≤
      ledger.allowanceOf minter + totalGranted minter (history.map (·.event)) := by
  induction evolves with
  | nil => exact Nat.le_refl _
  | cons permitted _ ih =>
    have first := permitted.allowanceOf_apply_le minter
    simp only [totalMinted, totalGranted, total, List.map_cons, List.sum_cons] at ih ⊢
    omega

end Ledger

/-- A minter's allowance and what it created since the last grant make up that grant, so grants
bound all minting. -/
theorem minting_ceiling {genesis : Genesis} {ledger : Ledger} (built : genesis.build = .ok ledger)
    (feeDenomination : Denomination) {commands : List Command}
    (regular : ∀ command ∈ commands, command.Regular) (minter : Account) :
    let chain : Chain := ⟨ledger, feeDenomination⟩
    let history := chain.deposited commands
    (∀ record, (chain.after commands).ledger.minters[minter]? = some record →
      (∀ allowance recent, LastGrant minter history allowance recent →
        record.allowance.toNat + totalMinted minter recent = allowance.toNat) ∧
      ((∀ event ∈ history, event.grant? minter = none) →
        genesis.allowance? minter = some (record.allowance.toNat + totalMinted minter history))) ∧
    totalMinted minter history ≤
      (genesis.allowance? minter).getD 0 + totalGranted minter history ∧
    ∀ past command, past ++ [command] <+: commands →
      let before := chain.after past
      let step := before.step command
      (∀ burner amount, .burned burner amount ∈ step.events →
        step.chain.ledger.minters = before.ledger.minters) ∧
      ∀ controller removed, .minterRemoved controller removed ∈ step.events →
        step.chain.ledger.minters = before.ledger.minters.erase removed := by
  intro chain history
  have evolves := chain.evolves_history regular
  have told : (chain.history commands).map (·.event) = history := chain.map_event_history regular
  have listed := Genesis.allowance?_of_build built minter
  refine ⟨?_, ?_, ?_⟩
  · intro record after
    constructor
    · intro allowance recent last
      exact evolves.allowance_of_lastGrant (told ▸ last) after
    · intro noGrant
      obtain ⟨former, before, spent⟩ := evolves.record_before (told ▸ noGrant) after
      rw [listed, before, Option.map_some, ← told, spent]
  · have bound := evolves.totalMinted_le minter
    have started : chain.ledger.allowanceOf minter = (genesis.allowance? minter).getD 0 := by
      rw [listed, Ledger.allowanceOf]
    rw [told] at bound
    omega
  · intro past command within before step
    have regular : command.Regular := regular command (within.subset (by simp))
    constructor
    · intro burner amount deposited
      rw [Chain.ledger_step_of_mem_events regular deposited]
      rfl
    · intro controller removed deposited
      rw [Chain.ledger_step_of_mem_events regular deposited]
      rfl

open SampleHost in
/-- The minter spends 30 of 100, then 20 of a new grant of 70; burning gives nothing back. -/
theorem minting_ceiling_of_spent_and_regranted :
    let commands : List Command :=
      [.dispatch (.signed minter) (.mint bob 30), .dispatch (.signed minter) (.mint bob 80),
        .submit (.signed controller) (.call (.configureMinter minter 70)) [],
        .dispatch (.signed minter) (.burn 10), .dispatch (.signed minter) (.mint alice 20)]
    let recent : List Event := [.burned minter 10, .minted minter alice 20]
    genesis.build = .ok firstLedger ∧ (∀ command ∈ commands, command.Regular) ∧
      (firstChain.after commands).ledger.minters[minter]? = some ⟨50, true⟩ ∧
      LastGrant minter (firstChain.deposited commands) 70 recent ∧
      50 + totalMinted minter recent = 70 ∧
      totalMinted minter (firstChain.deposited commands) ≤
        100 + totalGranted minter (firstChain.deposited commands) := by
  intro commands recent
  have regular : ∀ command ∈ commands, command.Regular := by decide
  obtain ⟨record, total, _⟩ :=
    minting_ceiling build_genesis otherDenomination regular minter
  have left : (firstChain.after commands).ledger.minters[minter]? = some ⟨50, true⟩ := by
    decide +kernel
  have last : LastGrant minter (firstChain.deposited commands) 70 recent := by
    refine ⟨⟨[.minted minter bob 30], .minterConfigured controller minter 70, ?_, rfl⟩, ?_⟩
    · decide +kernel
    · decide
  exact ⟨build_genesis, regular, left, last, (record _ left).1 _ _ last, total⟩

end Stablecoin
