import Stablecoin.Proofs.Ledger.Permission

/-! # What events do to the record of one minter

Configuring a minter writes its record, removing it deletes the record, and minting lowers the
allowance in it; no other event touches the record, nor does one about another minter.
-/

namespace Stablecoin

/-- The record of `minter` after an event, when it was `record?` before. -/
def Event.updateRecord (minter : Account) (record? : Option MinterRecord) :
    Event → Option MinterRecord
  | .minterConfigured _ configured allowance =>
      if configured = minter then some ⟨allowance, true⟩ else record?
  | .minterRemoved _ removed => if removed = minter then none else record?
  | .minted spender _ amount =>
      if spender = minter then
        record?.map fun record => { record with allowance := record.allowance - amount }
      else record?
  | _ => record?

/-- What `minter` may still create, as a number. -/
def Ledger.allowanceOf (ledger : Ledger) (minter : Account) : Nat :=
  (ledger.minters[minter]?.map (·.allowance.toNat)).getD 0

namespace Ledger

variable {ledger : Ledger} {caller minter : Account} {event : Event}

theorem getElem?_minters_apply (ledger : Ledger) (event : Event) (minter : Account) :
    (ledger.apply event).minters[minter]? = event.updateRecord minter ledger.minters[minter]? := by
  cases event with
  | minterConfigured controller configured allowance =>
    simp only [apply, Event.updateRecord, Std.ExtTreeMap.getElem?_insert,
      Std.LawfulEqCmp.compare_eq_iff_eq]
  | minterRemoved controller removed =>
    simp only [apply, Event.updateRecord, Std.ExtTreeMap.getElem?_erase,
      Std.LawfulEqCmp.compare_eq_iff_eq]
  | minted spender recipient amount =>
    simp only [apply, Event.updateRecord, Std.ExtTreeMap.getElem?_alter,
      Std.LawfulEqCmp.compare_eq_iff_eq]
    split
    · next same => rw [same]
    · rfl
  | _ => rfl

theorem Empowers.getElem?_minters {record : MinterRecord}
    (power : ledger.Empowers minter record) :
    ledger.minters[minter]? = some record ∧ record.active = true :=
  activeMinter?_eq_some_iff.mp power.active

theorem Empowers.allowanceOf {record : MinterRecord} (power : ledger.Empowers minter record) :
    ledger.allowanceOf minter = record.allowance.toNat := by
  rw [Ledger.allowanceOf, power.getElem?_minters.1, Option.map_some, Option.getD_some]

/-- An event that does not concern a minter leaves its record alone. -/
theorem getElem?_minters_apply_of_ne {spender recipient : Account} {amount : Amount}
    (other : spender ≠ minter) :
    (ledger.apply (.minted spender recipient amount)).minters[minter]? =
      ledger.minters[minter]? := by
  rw [getElem?_minters_apply, Event.updateRecord, if_neg other]

/-- Creating an amount makes nobody a minter, and leaves everybody a minter who was one. -/
theorem exists_empowers_apply_minted_iff {spender recipient : Account} {amount : Amount} :
    (∃ record, (ledger.apply (.minted spender recipient amount)).Empowers minter record) ↔
      ∃ record, ledger.Empowers minter record := by
  constructor
  · rintro ⟨record, power⟩
    obtain ⟨found, active⟩ := power.getElem?_minters
    rw [getElem?_minters_apply, Event.updateRecord] at found
    split at found
    · obtain ⟨former, before, rfl⟩ := Option.map_eq_some_iff.mp found
      exact ⟨former, power.running, activeMinter?_eq_some_iff.mpr ⟨before, active⟩,
        power.not_frozen⟩
    · exact ⟨record, power.running, activeMinter?_eq_some_iff.mpr ⟨found, active⟩,
        power.not_frozen⟩
  · rintro ⟨record, power⟩
    obtain ⟨found, active⟩ := power.getElem?_minters
    obtain ⟨later, after, still⟩ : ∃ later,
        (ledger.apply (.minted spender recipient amount)).minters[minter]? = some later ∧
          later.active = true := by
      rw [getElem?_minters_apply, found, Event.updateRecord]
      split
      · exact ⟨_, rfl, active⟩
      · exact ⟨record, rfl, active⟩
    exact ⟨later, power.running, activeMinter?_eq_some_iff.mpr ⟨after, still⟩, power.not_frozen⟩

/-- Whoever creates an amount has a record, and the amount is taken from it. -/
theorem Permits.spends {spender recipient : Account} {amount : Amount}
    (permitted : ledger.Permits caller (.minted spender recipient amount)) :
    ∃ former later, ledger.minters[spender]? = some former ∧
      (ledger.apply (.minted spender recipient amount)).minters[spender]? = some later ∧
      later.active = former.active ∧
      later.allowance.toNat + amount.toNat = former.allowance.toNat := by
  obtain ⟨rfl, _, ⟨record, power, within⟩, _⟩ := permitted
  have before := power.getElem?_minters.1
  have spent := UInt64.toNat_sub_of_le _ _ within
  refine ⟨record, { record with allowance := record.allowance - amount }, before, ?_, rfl, ?_⟩
  · rw [getElem?_minters_apply, before, Event.updateRecord, if_pos rfl]
    rfl
  · change (record.allowance - amount).toNat + amount.toNat = record.allowance.toNat
    rw [spent]
    exact Nat.sub_add_cancel (UInt64.le_iff_toNat_le.mp within)

end Ledger

end Stablecoin
