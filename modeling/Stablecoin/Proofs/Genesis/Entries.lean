import Mathlib.Algebra.GroupWithZero.Nat
import Stablecoin.Proofs.Genesis.Build
import Stablecoin.SampleHost

/-! # Genesis lists, entry by entry

The lists of a genesis may name an account more than once. Every allowance is looked at, also one
that a later entry replaces, and one that no word can hold stops the whole genesis. Otherwise the
last entry for an account is the one that counts, as it stands. How entries for different accounts
are interleaved makes no difference, and the list of frozen accounts is read as a set.
-/

namespace Stablecoin

section Entries

variable {α β γ : Type} {entries other : List (α × β)} {key : α} {value : β}

/-- The last of the entries for a key. -/
def LastEntry (entries : List (α × β)) (key : α) (value : β) : Prop :=
  ∃ earlier later, entries = earlier ++ (key, value) :: later ∧ ∀ entry ∈ later, entry.1 ≠ key

theorem LastEntry.map (last : LastEntry entries key value) (view : β → γ) :
    LastEntry (entries.map fun entry => (entry.1, view entry.2)) key (view value) := by
  obtain ⟨earlier, later, rfl, fresh⟩ := last
  exact ⟨_, _, List.map_append, List.forall_mem_map.mpr fresh⟩

variable [DecidableEq α]

/-- The entries for each key are the same and stand in the same order, however those for different
keys are interleaved. -/
def SameEntries (entries other : List (α × β)) : Prop :=
  ∀ key, entries.filter (·.1 = key) = other.filter (·.1 = key)

/-- Neighbours for different keys may change places. -/
theorem SameEntries.swap {first second : α × β} (apart : first.1 ≠ second.1)
    (earlier later : List (α × β)) :
    SameEntries (earlier ++ first :: second :: later) (earlier ++ second :: first :: later) := by
  intro key
  rw [List.filter_append, List.filter_append]
  congr 1
  by_cases own : first.1 = key
  · have aside : second.1 ≠ key := own ▸ apart.symm
    simp only [List.filter_cons, own, aside, decide_true, decide_false, if_true, if_false,
      Bool.false_eq_true]
  · simp only [List.filter_cons, own, decide_false, if_false, Bool.false_eq_true]

theorem lookup_reverse_eq_some_iff :
    entries.reverse.lookup key = some value ↔ LastEntry entries key value := by
  simp only [List.lookup_eq_some_iff, bne_iff_ne]
  constructor
  · rintro ⟨later, earlier, parts, fresh⟩
    refine ⟨earlier.reverse, later.reverse, ?_, ?_⟩
    · rw [← entries.reverse_reverse, parts]
      simp
    · intro entry member
      exact (fresh entry (List.mem_reverse.mp member)).symm
  · rintro ⟨earlier, later, rfl, fresh⟩
    refine ⟨later.reverse, earlier.reverse, by simp, ?_⟩
    intro entry member
    exact (fresh entry (List.mem_reverse.mp member)).symm

theorem lookup_reverse_eq_none_iff :
    entries.reverse.lookup key = none ↔ ∀ entry ∈ entries, entry.1 ≠ key := by
  simp only [List.lookup_eq_none_iff, List.mem_reverse, bne_iff_ne, ne_comm]

/-- Entries for other keys do not matter to a look-up. -/
theorem lookup_filter (entries : List (α × β)) (key : α) :
    (entries.filter (·.1 = key)).lookup key = entries.lookup key := by
  induction entries with
  | nil => rfl
  | cons entry rest ih =>
    obtain ⟨holder, value⟩ := entry
    rw [List.filter_cons, List.lookup_cons]
    by_cases own : holder = key
    · simp only [own, decide_true, if_true, List.lookup_cons, beq_self_eq_true]
    · simp only [own, decide_false, Bool.false_eq_true, if_false, beq_false_of_ne (Ne.symm own), ih]

theorem SameEntries.lookup_reverse (same : SameEntries entries other) (key : α) :
    entries.reverse.lookup key = other.reverse.lookup key := by
  rw [← lookup_filter, ← lookup_filter other.reverse, List.filter_reverse, List.filter_reverse,
    same key]

theorem SameEntries.mem_iff (same : SameEntries entries other) (entry : α × β) :
    entry ∈ entries ↔ entry ∈ other := by
  have own (list : List (α × β)) : entry ∈ list ↔ entry ∈ list.filter (·.1 = entry.1) := by simp
  rw [own entries, own other, same entry.1]

theorem SameEntries.map (same : SameEntries entries other) (view : β → γ) :
    SameEntries (entries.map fun entry => (entry.1, view entry.2))
      (other.map fun entry => (entry.1, view entry.2)) := by
  intro key
  rw [List.filter_map, List.filter_map]
  exact congrArg (List.map _) (same key)

end Entries

/-- Tables built from the same entries are the same. -/
theorem AccountMap.ofList_congr {β : Type} {entries other : List (Account × β)}
    (same : SameEntries entries other) :
    (Std.ExtTreeMap.ofList entries : AccountMap β) = .ofList other := by
  apply Std.ExtTreeMap.ext_getElem?
  intro who
  rw [getElem?_ofList, getElem?_ofList, same.lookup_reverse]

/-- Sets of the same accounts are the same, in whatever order and however often they are listed. -/
theorem AccountSet.ofList_congr {accounts other : List Account}
    (same : ∀ who, who ∈ accounts ↔ who ∈ other) :
    (Std.ExtTreeSet.ofList accounts : AccountSet) = .ofList other := by
  apply Std.ExtTreeSet.ext_mem
  intro who
  rw [Std.ExtTreeSet.mem_ofList, Std.ExtTreeSet.mem_ofList, List.contains_iff_mem,
    List.contains_iff_mem, same]

namespace Genesis

/-- A genesis fills the seats of another and lists the same things above the bank, in a different
order. -/
structure Rearranges (other genesis : Genesis) : Prop where
  roles : other.roles = genesis.roles
  paused : other.paused = genesis.paused
  /-- The frozen accounts may be listed in any order and repeatedly. -/
  blacklist : ∀ who, who ∈ other.blacklist ↔ who ∈ genesis.blacklist
  controllers : SameEntries other.controllers genesis.controllers
  minters : SameEntries other.minters genesis.minters

/-- A ledger holds what a genesis lists, and nothing else. -/
structure Describes (genesis : Genesis) (ledger : Ledger) : Prop where
  /-- The last entry for a minter gives its allowance, as the number that it is. -/
  minters : ∀ minter allowance, LastEntry genesis.minters minter allowance →
    ∃ record, ledger.minters[minter]? = some record ∧ record.active = true ∧
      record.allowance.toNat = allowance
  unlisted : ∀ minter, (∀ entry ∈ genesis.minters, entry.1 ≠ minter) →
    ledger.minters[minter]? = none
  controllers : ∀ controller minter, ledger.controllers[controller]? = some minter ↔
    LastEntry genesis.controllers controller minter
  blacklist : ∀ who, ledger.isBlacklisted who = true ↔ who ∈ genesis.blacklist
  owner : ledger.roles.owner = genesis.owner
  masterMinter : ledger.roles.masterMinter = genesis.masterMinter
  pauser : ledger.roles.pauser = genesis.pauser
  blacklister : ledger.roles.blacklister = genesis.blacklister
  pendingOwner : ledger.roles.pendingOwner = none
  paused : ledger.paused = genesis.paused

/-- What a genesis builds above a bank that is endowed already. -/
def buildAbove (genesis : Genesis) (bank : Bank) : Except GenesisFault Ledger :=
  if genesis.minters.any (UInt64.size ≤ ·.2) then .error .oversizedAllowance
  else .ok (genesis.ledgerAbove bank)

variable {genesis other : Genesis} {bank : Bank}

/-- The bank comes first. -/
theorem build_eq_bind (genesis : Genesis) :
    genesis.build = Bank.endow genesis.balances >>= genesis.buildAbove := by
  unfold build buildAbove
  refine congrArg (Bank.endow genesis.balances >>= ·) (funext fun bank => ?_)
  split <;> rfl

theorem oversized_iff :
    genesis.minters.any (UInt64.size ≤ ·.2) = true ↔
      ∃ entry ∈ genesis.minters, 2 ^ 64 - 1 < entry.2 := by
  simp only [List.any_eq_true, decide_eq_true_iff]
  rfl

theorem buildAbove_eq_error_iff :
    genesis.buildAbove bank = .error .oversizedAllowance ↔
      ∃ entry ∈ genesis.minters, 2 ^ 64 - 1 < entry.2 := by
  rw [buildAbove, ← oversized_iff]
  split
  · next oversized => exact iff_of_true rfl oversized
  · next fits => exact iff_of_false nofun fits

theorem buildAbove_of_fits (fits : ∀ entry ∈ genesis.minters, entry.2 ≤ 2 ^ 64 - 1) :
    genesis.buildAbove bank = .ok (genesis.ledgerAbove bank) := by
  have within : ¬ genesis.minters.any (UInt64.size ≤ ·.2) = true := by
    rw [oversized_iff]
    rintro ⟨entry, member, oversized⟩
    exact Nat.not_lt.mpr (fits entry member) oversized
  rw [buildAbove, if_neg within]

/-- Allowances that fit a word are what the records of their minters hold. -/
theorem describes_ledgerAbove (fits : ∀ entry ∈ genesis.minters, entry.2 ≤ 2 ^ 64 - 1)
    (bank : Bank) : genesis.Describes (genesis.ledgerAbove bank) where
  minters := by
    intro minter allowance last
    have within : allowance < UInt64.size := by
      obtain ⟨earlier, later, parts, _⟩ := last
      have member : (minter, allowance) ∈ genesis.minters := by
        rw [parts]
        exact List.mem_append_right _ List.mem_cons_self
      exact Nat.lt_of_le_pred (by decide) (fits _ member)
    refine ⟨⟨allowance.toUInt64, true⟩, ?_, rfl, Nat.mod_eq_of_lt within⟩
    rw [ledgerAbove, AccountMap.getElem?_ofList]
    exact lookup_reverse_eq_some_iff.mpr
      (last.map fun allowance : Nat => MinterRecord.mk allowance.toUInt64 true)
  unlisted := by
    intro minter unlisted
    rw [ledgerAbove, AccountMap.getElem?_ofList]
    exact lookup_reverse_eq_none_iff.mpr (List.forall_mem_map.mpr unlisted)
  controllers := by
    intro controller minter
    rw [ledgerAbove, AccountMap.getElem?_ofList]
    exact lookup_reverse_eq_some_iff
  blacklist := by
    intro who
    rw [Ledger.isBlacklisted_iff, ledgerAbove, Std.ExtTreeSet.mem_ofList, List.contains_iff_mem]
  owner := rfl
  masterMinter := rfl
  pauser := rfl
  blacklister := rfl
  pendingOwner := rfl
  paused := rfl

theorem Rearranges.ledgerAbove (same : other.Rearranges genesis) (bank : Bank) :
    other.ledgerAbove bank = genesis.ledgerAbove bank := by
  have records : (Std.ExtTreeMap.ofList other.minterRecords : AccountMap MinterRecord) =
      .ofList genesis.minterRecords := AccountMap.ofList_congr
        (same.minters.map fun allowance : Nat => MinterRecord.mk allowance.toUInt64 true)
  change Ledger.mk other.roles _ _ _ _ _ = Ledger.mk genesis.roles _ _ _ _ _
  rw [same.roles, same.paused, AccountSet.ofList_congr same.blacklist,
    AccountMap.ofList_congr same.controllers, records]

theorem Rearranges.buildAbove (same : other.Rearranges genesis) (bank : Bank) :
    other.buildAbove bank = genesis.buildAbove bank := by
  have oversized : other.minters.any (UInt64.size ≤ ·.2) =
      genesis.minters.any (UInt64.size ≤ ·.2) := by
    rw [Bool.eq_iff_iff, oversized_iff, oversized_iff]
    simp only [same.minters.mem_iff]
  rw [Genesis.buildAbove, Genesis.buildAbove, oversized, same.ledgerAbove]

/-- A genesis fails for an allowance that is too large, and otherwise comes to the ledger of its
last entries. -/
theorem genesis_contents (genesis : Genesis) :
    genesis.build = Bank.endow genesis.balances >>= genesis.buildAbove ∧
    ∀ bank : Bank,
      (genesis.buildAbove bank = .error .oversizedAllowance ↔
        ∃ entry ∈ genesis.minters, 2 ^ 64 - 1 < entry.2) ∧
      ((∀ entry ∈ genesis.minters, entry.2 ≤ 2 ^ 64 - 1) →
        ∃ ledger, genesis.buildAbove bank = .ok ledger ∧ genesis.Describes ledger ∧
          ledger.bank = bank) ∧
      ∀ other : Genesis, other.Rearranges genesis →
        other.buildAbove bank = genesis.buildAbove bank := by
  refine ⟨genesis.build_eq_bind, fun bank => ⟨buildAbove_eq_error_iff, ?_, ?_⟩⟩
  · intro fits
    exact ⟨_, buildAbove_of_fits fits, describes_ledgerAbove fits bank, rfl⟩
  · intro other same
    exact same.buildAbove bank

open SampleHost in
/-- Of repeated entries the later ones count, but even a replaced allowance can be too large. -/
theorem genesis_contents_of_replaced_entries :
    let most : Nat := 18446744073709551615
    let listing : Genesis :=
      { SampleHost.genesis with
        blacklist := [bob, alice, bob]
        controllers := [(controller, alice), (charlie, minter), (controller, minter)]
        minters := [(minter, 7), (alice, most), (minter, 5)] }
    let moved : Genesis :=
      { listing with
        blacklist := [alice, bob]
        controllers := [(controller, alice), (controller, minter), (charlie, minter)]
        minters := [(alice, most), (minter, 7), (minter, 5)] }
    let oversized : Genesis := { listing with minters := [(minter, most + 1), (minter, 5)] }
    (∃ ledger, listing.build = .ok ledger ∧
      (∃ record, ledger.minters[minter]? = some record ∧ record.active = true ∧
        record.allowance.toNat = 5) ∧
      (∃ record, ledger.minters[alice]? = some record ∧ record.active = true ∧
        record.allowance.toNat = most) ∧
      ledger.minters[bob]? = none ∧ ledger.controllers[controller]? = some minter) ∧
      (moved.Rearranges listing ∧
        moved.buildAbove firstLedger.bank = listing.buildAbove firstLedger.bank) ∧
      oversized.build = .error .oversizedAllowance := by
  intro most listing moved oversized
  have endowed : Bank.endow listing.balances = .ok firstLedger.bank := rfl
  obtain ⟨listingBuilds, listingAbove⟩ := genesis_contents listing
  obtain ⟨_, builds, rearranged⟩ := listingAbove firstLedger.bank
  obtain ⟨oversizedBuilds, oversizedAbove⟩ := genesis_contents oversized
  have failed : oversized.buildAbove firstLedger.bank = .error .oversizedAllowance :=
    (oversizedAbove firstLedger.bank).1.mpr ⟨(minter, most + 1), List.mem_cons_self, by decide⟩
  have same : moved.Rearranges listing :=
    { roles := rfl
      paused := rfl
      blacklist := by
        intro who
        grind
      controllers := .swap (by decide) [(controller, alice)] []
      minters := .swap (by decide) [] [(minter, 5)] }
  obtain ⟨ledger, built, described, _⟩ := builds (by simp [listing, most])
  refine ⟨⟨ledger, ?_, ?_, ?_, ?_, ?_⟩, ⟨same, rearranged moved same⟩, ?_⟩
  · rw [listingBuilds, endowed]
    exact built
  · exact described.minters minter 5 ⟨[(minter, 7), (alice, most)], [], rfl, List.forall_mem_nil _⟩
  · exact described.minters alice most ⟨[(minter, 7)], [(minter, 5)], rfl, by decide⟩
  · exact described.unlisted bob (by decide)
  · exact (described.controllers controller minter).mpr
      ⟨[(controller, alice), (charlie, minter)], [], rfl, List.forall_mem_nil _⟩
  · rw [oversizedBuilds]
    exact failed

end Genesis

end Stablecoin
