import Stablecoin.Proofs.Chain.Success
import Stablecoin.Proofs.Ledger.Listing
import Stablecoin.Proofs.Ledger.Memory
import Stablecoin.Proofs.Minting.Ceiling

/-! # Orphaned minters

Only a controller of a minter writes or deletes its record, and controllers are looked up by their
own name. A minter that no controller names is an orphan, and it stays one until a controller is
assigned to it: other controllers may be assigned, moved and removed meanwhile. All that an orphan
can do to its record is spend from it.
-/

namespace Stablecoin

namespace Event

variable {event : Event} {controller minter : Account}

/-- The minter that moves tokens in an event. -/
def mover? : Event → Option Account
  | .minted minter _ _ | .burned minter _ => some minter
  | _ => none

/-- What grants no record grants no allowance, and neither does what takes a record away. -/
theorem grant?_eq_none_of_enlists? (untouched : event.enlists? minter = none) :
    event.grant? minter = none := by
  cases event with
  | minterConfigured controller configured allowance =>
    refine if_neg ?_
    rintro rfl
    simp [enlists?] at untouched
  | _ => rfl

/-- What neither grants a record nor takes one away leaves it as active as it was. -/
theorem map_active_updateRecord (untouched : event.enlists? minter = none)
    (record? : Option MinterRecord) :
    (event.updateRecord minter record?).map (·.active) = record?.map (·.active) := by
  cases event with
  | minterConfigured | minterRemoved =>
    simp only [enlists?, ite_eq_right_iff, reduceCtorEq, imp_false] at untouched
    rw [updateRecord, if_neg untouched]
  | minted spender recipient amount =>
    rw [updateRecord]
    split
    · exact Option.map_map ..
    · rfl
  | _ => rfl

theorem call_of_charges? (told : event.charges? controller = some (some minter)) :
    event.call = .assignController controller minter := by
  cases event with
  | controllerAssigned assigned charged =>
    obtain ⟨rfl, ⟨⟩⟩ := Option.ite_none_right_eq_some.mp told
    rfl
  | controllerRemoved removed charged =>
    obtain ⟨_, ⟨⟩⟩ := Option.ite_none_right_eq_some.mp told
  | _ => contradiction

end Event

namespace Ledger

variable {ledger start current final : Ledger} {caller minter : Account} {event : Event}

theorem activeMinter?_eq_none_iff :
    ledger.activeMinter? minter = none ↔ ledger.minters[minter]?.map (·.active) ≠ some true := by
  rw [activeMinter?]
  cases ledger.minters[minter]? with
  | none => simp
  | some record => simp [Option.filter_some]

/-! ## One event -/

/-- Only an assignment to it gives a controller to a minter without one. -/
theorem controllersOf_apply_eq_nil (orphaned : ledger.controllersOf minter = [])
    (kept : ∀ controller, event.call ≠ .assignController controller minter) :
    (ledger.apply event).controllersOf minter = [] := by
  rw [controllersOf_eq_nil_iff] at orphaned ⊢
  intro controller
  have tracks := tracks_controller controller
  cases told : event.charges? controller with
  | none =>
    have same : (ledger.apply event).controllers[controller]? = ledger.controllers[controller]? :=
      tracks.apply_of_silent told
    rw [same]
    exact orphaned controller
  | some charged =>
    have now : (ledger.apply event).controllers[controller]? = charged := tracks.apply_of_told told
    rw [now]
    rintro rfl
    exact kept controller (Event.call_of_charges? told)

/-- Nobody grants a record to an orphan or takes one away. -/
theorem Permits.enlists?_eq_none (permitted : ledger.Permits caller event)
    (orphaned : ledger.controllersOf minter = []) : event.enlists? minter = none := by
  rw [controllersOf_eq_nil_iff] at orphaned
  cases event with
  | minterConfigured controller configured allowance =>
    refine if_neg ?_
    rintro rfl
    exact orphaned caller permitted.1
  | minterRemoved controller removed =>
    refine if_neg ?_
    rintro rfl
    exact orphaned caller permitted.1
  | _ => rfl

/-- What neither grants a record nor takes one away lowers the allowance by what the minter
creates. -/
theorem Permits.allowanceOf_apply (permitted : ledger.Permits caller event)
    (untouched : event.enlists? minter = none) :
    (ledger.apply event).allowanceOf minter + event.amountMinted minter =
      ledger.allowanceOf minter := by
  have covered := permitted.amountMinted_le minter
  have kept : (ledger.apply event).minters[minter]?.isSome = ledger.minters[minter]?.isSome :=
    (tracks_record minter).apply_of_silent untouched
  cases after : (ledger.apply event).minters[minter]? with
  | some record =>
    have noGrant := Event.grant?_eq_none_of_enlists? untouched
    obtain ⟨former, before, spent⟩ := permitted.record_before noGrant after
    rw [allowanceOf, allowanceOf, before, after]
    exact spent
  | none =>
    rw [after, Option.isSome_none, eq_comm, Option.isSome_eq_false_iff,
      Option.isNone_iff_eq_none] at kept
    simp only [allowanceOf, kept, after, Option.map_none, Option.getD_none] at covered ⊢
    omega

/-- Whoever moves tokens has the power to. -/
theorem Permits.exists_empowers (permitted : ledger.Permits caller event)
    (moves : event.mover? = some minter) : ∃ record, ledger.Empowers minter record := by
  cases event with
  | minted =>
    obtain ⟨rfl, _, ⟨record, power, _⟩, _⟩ := permitted
    obtain rfl := Option.some.inj moves
    exact ⟨record, power⟩
  | burned =>
    obtain ⟨rfl, powers, _⟩ := permitted
    obtain rfl := Option.some.inj moves
    exact powers
  | _ => contradiction

/-! ## A history of events -/

/-- Since `start` a minter has had no controller, so nothing but its own mints changed its record.
-/
structure WindsDown (minter : Account) (start : Ledger) (past : List Event) (current : Ledger) :
    Prop where
  orphaned : current.controllersOf minter = []
  untouched : ∀ event ∈ past, event.enlists? minter = none
  active : current.minters[minter]?.map (·.active) = start.minters[minter]?.map (·.active)
  allowance : current.allowanceOf minter + totalMinted minter past = start.allowanceOf minter
  idle : start.activeMinter? minter = none → ∀ event ∈ past, event.mover? ≠ some minter

namespace WindsDown

variable {past : List Event}

theorem nil (orphaned : ledger.controllersOf minter = []) : WindsDown minter ledger [] ledger where
  orphaned := orphaned
  untouched := List.forall_mem_nil _
  active := rfl
  allowance := rfl
  idle _ := List.forall_mem_nil _

/-- An orphan goes on winding down with every event that does not assign a controller to it. -/
theorem apply (down : WindsDown minter start past current)
    (permitted : current.Permits caller event)
    (kept : ∀ controller, event.call ≠ .assignController controller minter) :
    WindsDown minter start (past ++ [event]) (current.apply event) := by
  have untouched := permitted.enlists?_eq_none down.orphaned
  refine ⟨controllersOf_apply_eq_nil down.orphaned kept, ?_, ?_, ?_, ?_⟩
  · rw [List.forall_mem_append, List.forall_mem_singleton]
    exact ⟨down.untouched, untouched⟩
  · rw [getElem?_minters_apply, Event.map_active_updateRecord untouched, down.active]
  · have before := down.allowance
    have after := permitted.allowanceOf_apply untouched
    simp only [totalMinted, total, List.map_append, List.sum_append, List.map_singleton,
      List.sum_singleton] at before ⊢
    omega
  · intro inactive
    rw [List.forall_mem_append, List.forall_mem_singleton]
    refine ⟨down.idle inactive, fun moves => ?_⟩
    obtain ⟨record, power⟩ := permitted.exists_empowers moves
    rw [activeMinter?_eq_none_iff, ← down.active, ← activeMinter?_eq_none_iff, power.active]
      at inactive
    contradiction

end WindsDown

/-- An orphan winds down through every history that assigns no controller to it. -/
theorem Evolves.windsDown {history : List SignedEvent} (evolves : ledger.Evolves history final)
    (orphaned : ledger.controllersOf minter = [])
    (kept : ∀ event ∈ history.map (·.event), ∀ controller,
      event.call ≠ .assignController controller minter) :
    WindsDown minter ledger (history.map (·.event)) final := by
  refine evolves.carries (P := fun past current =>
    (∀ event ∈ past, ∀ controller, event.call ≠ .assignController controller minter) →
      WindsDown minter ledger past current) ?_ (fun _ => .nil orphaned) kept
  intro past current signed permitted down kept
  rw [List.forall_mem_append, List.forall_mem_singleton] at kept
  exact (down kept.1).apply permitted kept.2

end Ledger

/-- As long as no controller is assigned to it, a minter without controllers can only spend its
allowance. -/
theorem orphan_winds_down (chain : Chain) (minter : Account)
    (orphaned : chain.ledger.controllersOf minter = []) {commands : List Command}
    (regular : ∀ command ∈ commands, command.Regular)
    (kept : ∀ controller, .assignController controller minter ∉ chain.achieved commands)
    {past : List Command} (within : past <+: commands) :
    let reached := (chain.after past).ledger
    let history := chain.deposited past
    reached.controllersOf minter = [] ∧
      ((∀ event ∈ history, event.enlists? minter = none) ∧
        reached.minters[minter]?.map (·.active) =
          chain.ledger.minters[minter]?.map (·.active)) ∧
      (∀ record, chain.ledger.minters[minter]? = some record →
        ∃ later, reached.minters[minter]? = some later ∧
          later.allowance.toNat = record.allowance.toNat - totalMinted minter history ∧
          totalMinted minter history ≤ record.allowance.toNat) ∧
      (chain.ledger.activeMinter? minter = none →
        (∀ recipient amount, .minted minter recipient amount ∉ history) ∧
          ∀ amount, .burned minter amount ∉ history) := by
  intro reached history
  have early : ∀ command ∈ past, command.Regular :=
    fun command member => regular command (within.subset member)
  have told : (chain.history past).map (·.event) = history := chain.map_event_history early
  have down : Ledger.WindsDown minter chain.ledger history reached := by
    rw [← told]
    refine (chain.evolves_history early).windsDown orphaned ?_
    intro event member controller assigns
    obtain ⟨signed, deposited, rfl⟩ := List.mem_map.mp member
    have achieved := Chain.achieved_subset within (Chain.call_mem_achieved early deposited)
    exact kept controller (assigns ▸ achieved)
  refine ⟨down.orphaned, ⟨down.untouched, down.active⟩, ?_, ?_⟩
  · intro record before
    have active := down.active
    rw [before, Option.map_some] at active
    obtain ⟨later, after, _⟩ := Option.map_eq_some_iff.mp active
    have spent := down.allowance
    rw [Ledger.allowanceOf, Ledger.allowanceOf, before, after] at spent
    simp only [Option.map_some, Option.getD_some] at spent
    exact ⟨later, after, by omega, by omega⟩
  · intro inactive
    have idle := down.idle inactive
    exact ⟨fun recipient amount minted => idle _ minted rfl,
      fun amount burned => idle _ burned rfl⟩

open SampleHost in
/-- Without a controller the minter spends 50 of its 100, and is neither granted 500 nor removed. -/
theorem orphan_winds_down_of_remapped_controllers :
    let start : Chain :=
      ⟨{ firstLedger with
          controllers := ∅
          minters := .ofList [(minter, MinterRecord.mk 100 true), (bob, .mk 40 false)] },
        otherDenomination⟩
    let commands : List Command := [
      .dispatch (.signed masterMinter) (.assignController controller charlie),
      .dispatch (.signed controller) (.configureMinter minter 500),
      .dispatch (.signed masterMinter) (.assignController alice charlie),
      .dispatch (.signed minter) (.mint bob 30), .dispatch (.signed alice) (.removeMinter minter),
      .dispatch (.signed bob) (.mint bob 0), .dispatch (.signed bob) (.burn 0),
      .dispatch (.signed masterMinter) (.removeController controller),
      .dispatch (.signed minter) (.burn 10), .dispatch (.signed minter) (.mint alice 20)]
    let reached := (start.after commands).ledger
    let history := start.deposited commands
    (∀ command ∈ commands, command.Regular) ∧
      (start.ledger.controllersOf minter = [] ∧
        ∀ controller, .assignController controller minter ∉ start.achieved commands) ∧
      reached.controllersOf minter = [] ∧ totalMinted minter history = 50 ∧
      (∃ later, reached.minters[minter]? = some later ∧ later.allowance.toNat = 100 - 50) ∧
      (start.ledger.controllersOf bob = [] ∧
        ∀ controller, .assignController controller bob ∉ start.achieved commands) ∧
      reached.minters[bob]?.map (·.active) = some false ∧
      (∀ recipient amount, .minted bob recipient amount ∉ history) ∧
      ∀ amount, .burned bob amount ∉ history := by
  intro start commands reached history
  have regular : ∀ command ∈ commands, command.Regular := by decide
  have achieved : start.achieved commands =
      [.assignController controller charlie, .assignController alice charlie, .mint bob 30,
        .removeController controller, .burn 10, .mint alice 20] := by decide +kernel
  have notMinter : ∀ controller, .assignController controller minter ∉ start.achieved commands := by
    simp [achieved, minter, charlie]
  have notBob : ∀ controller, .assignController controller bob ∉ start.achieved commands := by
    simp [achieved, bob, charlie]
  have noController : start.ledger.controllers = ∅ := rfl
  have orphaned : ∀ who, start.ledger.controllersOf who = [] := by
    simp [Ledger.controllersOf, noController]
  have minted : totalMinted minter history = 50 := by decide +kernel
  obtain ⟨noneYet, _, spent, _⟩ :=
    orphan_winds_down start minter (orphaned _) regular notMinter List.prefix_rfl
  obtain ⟨_, ⟨_, still⟩, _, idle⟩ :=
    orphan_winds_down start bob (orphaned _) regular notBob List.prefix_rfl
  obtain ⟨later, after, left, _⟩ := spent ⟨100, true⟩ (by decide +kernel)
  have inactive := idle (by decide +kernel)
  exact ⟨regular, ⟨orphaned _, notMinter⟩, noneYet, minted, ⟨later, after, minted ▸ left⟩,
    ⟨orphaned _, notBob⟩, still.trans (by decide +kernel), inactive.1, inactive.2⟩

end Stablecoin
