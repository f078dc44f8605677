import Mathlib.Algebra.BigOperators.Group.List.Lemmas
import Mathlib.Algebra.GroupWithZero.Nat
import Mathlib.Data.List.Nodup
import Stablecoin.Chain.History
import Stablecoin.SampleHost

/-! # What the lists say

The lists of frozen accounts and of controllers are in ascending order and have exactly the entries
that single questions find. The controllers of a minter are looked up in the list of all controllers,
and every controller is found for the one minter that it is in charge of. None of the lists tells in
which order the entries were written: whoever goes through a table in any order at all, picks out
what is asked for and sorts it, gets the same list.
-/

namespace Stablecoin

/-! ## Tables and lists -/

theorem AccountSet.ascending_toList (accounts : AccountSet) :
    accounts.toList.Pairwise (· < ·) :=
  Std.ExtTreeSet.ordered_toList.imp Std.compare_eq_lt.mp

theorem AccountMap.ascending_toList {β : Type} (table : AccountMap β) :
    table.toList.Pairwise (·.1 < ·.1) :=
  Std.ExtTreeMap.ordered_keys_toList.imp Std.compare_eq_lt.mp

/-- The list has every account of a set once, in whatever order. -/
structure AccountSet.ScannedBy (accounts : AccountSet) (scan : List Account) : Prop where
  nodup : scan.Nodup
  mem_iff : ∀ who, who ∈ scan ↔ who ∈ accounts

/-- The list has every entry of a table once, in whatever order. -/
structure AccountMap.ScannedBy {β : Type} (table : AccountMap β) (scan : List (Account × β)) :
    Prop where
  nodup : scan.Nodup
  mem_iff : ∀ who value, (who, value) ∈ scan ↔ table[who]? = some value

section Ascending

variable {α : Type} {key : α → Account} {listed scan : List α}

/-- No two entries of a list with ascending keys have the same key. -/
private theorem nodup_of_ascending (ascending : listed.Pairwise (key · < key ·)) :
    (listed.map key).Nodup := by
  rw [List.nodup_iff_pairwise_ne, List.pairwise_map]
  exact ascending.imp UInt64.ne_of_lt

/-- A list with ascending keys is what sorting makes of its entries, in whatever order they come. -/
theorem mergeSort_eq_of_perm (ascending : listed.Pairwise (key · < key ·))
    (perm : scan.Perm listed) : scan.mergeSort (key · ≤ key ·) = listed := by
  have sorted : (scan.mergeSort (key · ≤ key ·)).Pairwise
      fun first second => decide (key first ≤ key second) = true := by
    apply List.pairwise_mergeSort
    · intro first second third before after
      rw [decide_eq_true_eq] at before after ⊢
      exact UInt64.le_trans before after
    · intro first second
      rw [Bool.or_eq_true, decide_eq_true_eq, decide_eq_true_eq]
      exact UInt64.le_total _ _
  have same := (List.mergeSort_perm scan (key · ≤ key ·)).trans perm
  refine same.eq_of_pairwise ?_ sorted ?_
  · -- Entries are equal when their keys are, since no key is listed twice.
    intro first second member other before after
    rw [decide_eq_true_eq] at before after
    exact List.inj_on_of_nodup_map (nodup_of_ascending ascending) (same.mem_iff.mp member) other
      (UInt64.le_antisymm before after)
  · exact ascending.imp fun before => decide_eq_true (UInt64.le_of_lt before)

end Ascending

theorem AccountSet.ScannedBy.perm {accounts : AccountSet} {scan : List Account}
    (scanned : accounts.ScannedBy scan) : scan.Perm accounts.toList := by
  have nodup : accounts.toList.Nodup := accounts.ascending_toList.imp UInt64.ne_of_lt
  rw [List.perm_ext_iff_of_nodup scanned.nodup nodup]
  intro who
  rw [scanned.mem_iff, Std.ExtTreeSet.mem_toList]

theorem AccountMap.ScannedBy.perm {β : Type} {table : AccountMap β}
    {scan : List (Account × β)} (scanned : table.ScannedBy scan) : scan.Perm table.toList := by
  have nodup : table.toList.Nodup := (nodup_of_ascending table.ascending_toList).of_map
  rw [List.perm_ext_iff_of_nodup scanned.nodup nodup]
  rintro ⟨who, value⟩
  rw [scanned.mem_iff, Std.ExtTreeMap.mem_toList_iff_getElem?_eq_some]

namespace Ledger

variable {ledger other : Ledger} {who controller minter : Account}

/-! ## Lists and single questions -/

theorem mem_blacklistEntries_iff :
    who ∈ ledger.blacklistEntries ↔ ledger.isBlacklisted who = true := by
  rw [blacklistEntries, Std.ExtTreeSet.mem_toList, isBlacklisted_iff]

theorem blacklistEntry_eq_ok_iff {shown : Account} :
    ledger.blacklistEntry who = .ok shown ↔ ledger.isBlacklisted who = true ∧ shown = who := by
  rw [blacklistEntry]
  split
  · next frozen => simp [frozen, eq_comm]
  · next free => simp [free]

theorem mem_controllerEntries_iff :
    (controller, minter) ∈ ledger.controllerEntries ↔
      ledger.controllers[controller]? = some minter :=
  Std.ExtTreeMap.mem_toList_iff_getElem?_eq_some

theorem controllerEntry_eq_ok_iff {entry : Account × Account} :
    ledger.controllerEntry controller = .ok entry ↔
      ledger.controllers[controller]? = some entry.2 ∧ entry.1 = controller := by
  obtain ⟨shown, minter⟩ := entry
  rw [controllerEntry]
  split
  · next charged found => simp [found, eq_comm, and_comm]
  · next absent => simp [absent]

theorem mem_controllersOf_iff :
    controller ∈ ledger.controllersOf minter ↔ ledger.controllers[controller]? = some minter := by
  rw [← mem_controllerEntries_iff]
  simp [controllersOf, controllerEntries]

/-- A minter that nobody is in charge of has no controllers. -/
theorem controllersOf_eq_nil_iff :
    ledger.controllersOf minter = [] ↔
      ∀ controller : Account, ledger.controllers[controller]? ≠ some minter := by
  simp only [List.eq_nil_iff_forall_not_mem, mem_controllersOf_iff, ne_eq]

theorem ascending_controllersOf (ledger : Ledger) (minter : Account) :
    (ledger.controllersOf minter).Pairwise (· < ·) := by
  rw [controllersOf, List.pairwise_map]
  exact ledger.controllers.ascending_toList.filter _

/-- There are as many controllers of a minter as entries that name it. -/
theorem length_controllersOf (ledger : Ledger) (minter : Account) :
    (ledger.controllersOf minter).length = (ledger.controllerEntries.map (·.2)).count minter := by
  rw [controllersOf, List.length_map, ← List.countP_eq_length_filter, List.count,
    List.countP_map]
  rfl

/-- The controllers of all minters that are named make up the whole list. -/
theorem sum_length_controllersOf (ledger : Ledger) :
    ((ledger.controllerEntries.map (·.2)).dedup.map
      fun minter => (ledger.controllersOf minter).length).sum =
        ledger.controllerEntries.length := by
  simp only [length_controllersOf]
  rw [List.sum_map_count_dedup_eq_length, List.length_map]

/-! ## Independence of the order -/

theorem mergeSort_eq_blacklistEntries {scan : List Account}
    (scanned : ledger.blacklist.ScannedBy scan) :
    scan.mergeSort (· ≤ ·) = ledger.blacklistEntries :=
  mergeSort_eq_of_perm ledger.blacklist.ascending_toList scanned.perm

section Scan

variable {scan : List (Account × Account)} (scanned : ledger.controllers.ScannedBy scan)

include scanned

theorem mergeSort_eq_controllerEntries :
    scan.mergeSort (·.1 ≤ ·.1) = ledger.controllerEntries :=
  mergeSort_eq_of_perm ledger.controllers.ascending_toList scanned.perm

theorem mergeSort_eq_controllersOf (minter : Account) :
    ((scan.filter (·.2 == minter)).map (·.1)).mergeSort (· ≤ ·) = ledger.controllersOf minter :=
  mergeSort_eq_of_perm (ledger.ascending_controllersOf minter)
    ((scanned.perm.filter _).map _)

end Scan

theorem blacklistEntries_congr
    (agree : ∀ who, ledger.isBlacklisted who = other.isBlacklisted who) :
    ledger.blacklistEntries = other.blacklistEntries := by
  have same : ledger.blacklist = other.blacklist := by
    apply Std.ExtTreeSet.ext_mem
    intro who
    rw [← isBlacklisted_iff, agree, isBlacklisted_iff]
  rw [blacklistEntries, same, blacklistEntries]

theorem controllers_eq_of_controllerEntry
    (agree : ∀ controller, ledger.controllerEntry controller = other.controllerEntry controller) :
    ledger.controllers = other.controllers := by
  apply Std.ExtTreeMap.ext_getElem?
  intro controller
  ext minter
  have answered : ledger.controllerEntry controller = .ok (controller, minter) ↔
      other.controllerEntry controller = .ok (controller, minter) := by rw [agree]
  simpa only [controllerEntry_eq_ok_iff, and_true] using answered

end Ledger

/-- In every state, the lists ascend and have exactly the entries that single questions find. -/
theorem listings_exact (chain : Chain) (commands : List Command) :
    let ledger := (chain.after commands).ledger
    (ledger.blacklistEntries.Pairwise (· < ·) ∧
      ∀ who, (who ∈ ledger.blacklistEntries ↔ ledger.isBlacklisted who = true) ∧
        (ledger.isBlacklisted who = true ↔ ∃ shown, ledger.blacklistEntry who = .ok shown)) ∧
    (ledger.controllerEntries.Pairwise (·.1 < ·.1) ∧
      ∀ controller minter, (controller, minter) ∈ ledger.controllerEntries ↔
        ledger.controllerEntry controller = .ok (controller, minter)) ∧
    ((∀ minter, ledger.controllersOf minter =
        (ledger.controllerEntries.filter (·.2 == minter)).map (·.1)) ∧
      (∀ entry ∈ ledger.controllerEntries, ∃! minter, entry.1 ∈ ledger.controllersOf minter) ∧
      ((ledger.controllerEntries.map (·.2)).dedup.map
        fun minter => (ledger.controllersOf minter).length).sum =
          ledger.controllerEntries.length) ∧
    (∀ scan, ledger.blacklist.ScannedBy scan →
      scan.mergeSort (· ≤ ·) = ledger.blacklistEntries) ∧
    (∀ scan, ledger.controllers.ScannedBy scan →
      scan.mergeSort (·.1 ≤ ·.1) = ledger.controllerEntries ∧
      ∀ minter, ((scan.filter (·.2 == minter)).map (·.1)).mergeSort (· ≤ ·) =
        ledger.controllersOf minter) ∧
    ∀ (otherChain : Chain) (otherCommands : List Command),
      let other := (otherChain.after otherCommands).ledger
      ((∀ who, other.isBlacklisted who = ledger.isBlacklisted who) →
        other.blacklistEntries = ledger.blacklistEntries) ∧
      ((∀ controller, other.controllerEntry controller = ledger.controllerEntry controller) →
        other.controllerEntries = ledger.controllerEntries ∧
        ∀ minter, other.controllersOf minter = ledger.controllersOf minter) := by
  intro ledger
  refine ⟨⟨ledger.blacklist.ascending_toList, fun who => ?_⟩,
    ⟨ledger.controllers.ascending_toList, fun controller minter => ?_⟩,
    ⟨fun _ => rfl, ?_, ledger.sum_length_controllersOf⟩,
    fun _ => Ledger.mergeSort_eq_blacklistEntries, fun _ scanned => ?_, ?_⟩
  · refine ⟨Ledger.mem_blacklistEntries_iff, ?_⟩
    simp only [Ledger.blacklistEntry_eq_ok_iff, exists_and_left, exists_eq, and_true]
  · rw [Ledger.mem_controllerEntries_iff, Ledger.controllerEntry_eq_ok_iff]
    simp only [and_true]
  · rintro ⟨controller, minter⟩ member
    have charged := Ledger.mem_controllerEntries_iff.mp member
    refine ⟨minter, Ledger.mem_controllersOf_iff.mpr charged, ?_⟩
    intro also listed
    exact Option.some.inj ((Ledger.mem_controllersOf_iff.mp listed).symm.trans charged)
  · exact ⟨Ledger.mergeSort_eq_controllerEntries scanned,
      Ledger.mergeSort_eq_controllersOf scanned⟩
  · intro otherChain otherCommands other
    refine ⟨Ledger.blacklistEntries_congr, fun agree => ?_⟩
    have same := Ledger.controllers_eq_of_controllerEntry agree
    simp only [Ledger.controllerEntries, Ledger.controllersOf, same, implies_true, and_self]

open SampleHost in
/-- Two histories of the sample host, in different orders, lead to the same lists. -/
theorem listings_exact_of_two_orders :
    let direct : List Command := [
      .dispatch (.signed blacklister) (.blacklist alice),
      .dispatch (.signed blacklister) (.blacklist bob),
      .dispatch (.signed masterMinter) (.assignController alice minter),
      .dispatch (.signed masterMinter) (.assignController bob charlie)]
    let roundabout : List Command := [
      .dispatch (.signed blacklister) (.blacklist bob),
      .dispatch (.signed blacklister) (.blacklist charlie),
      .dispatch (.signed masterMinter) (.removeController controller),
      .dispatch (.signed masterMinter) (.assignController bob minter),
      .dispatch (.signed blacklister) (.blacklist alice),
      .dispatch (.signed masterMinter) (.assignController alice minter),
      .dispatch (.signed masterMinter) (.assignController bob charlie),
      .dispatch (.signed blacklister) (.unblacklist charlie),
      .dispatch (.signed masterMinter) (.assignController controller minter)]
    let ledger := (firstChain.after direct).ledger
    let other := (firstChain.after roundabout).ledger
    ledger.blacklist.ScannedBy [bob, alice] ∧
      [bob, alice].mergeSort (· ≤ ·) = ledger.blacklistEntries ∧
      (∀ who, other.isBlacklisted who = ledger.isBlacklisted who) ∧
      other.blacklistEntries = ledger.blacklistEntries ∧
      (∀ controller, other.controllerEntry controller = ledger.controllerEntry controller) ∧
      other.controllerEntries = ledger.controllerEntries ∧
      ledger.controllersOf minter = [controller, alice] ∧ ledger.controllersOf charlie = [bob] := by
  intro direct roundabout ledger other
  have sameBlacklist : other.blacklist = ledger.blacklist := by decide +kernel
  have sameControllers : other.controllers = ledger.controllers := by decide +kernel
  have frozen : ledger.blacklist = .ofList [alice, bob] := by decide +kernel
  have scanned : ledger.blacklist.ScannedBy [bob, alice] := by
    refine ⟨by decide, fun who => ?_⟩
    rw [frozen, Std.ExtTreeSet.mem_ofList]
    simp [or_comm]
  have agreed : ∀ who, other.isBlacklisted who = ledger.isBlacklisted who := by
    simp [Ledger.isBlacklisted, sameBlacklist]
  have paired : ∀ controller,
      other.controllerEntry controller = ledger.controllerEntry controller := by
    simp [Ledger.controllerEntry, sameControllers]
  obtain ⟨_, _, _, ofScan, _, ofHistory⟩ := listings_exact firstChain direct
  obtain ⟨blacklists, controllers⟩ := ofHistory firstChain roundabout
  exact ⟨scanned, ofScan _ scanned, agreed, blacklists agreed, paired, (controllers paired).1,
    by decide +kernel, by decide +kernel⟩

end Stablecoin
