import Mathlib.Data.Set.Insert
import Stablecoin.Proofs.Chain.Evolution
import Stablecoin.Proofs.Ledger.Records
import Stablecoin.SampleHost

/-! # What a coalition cannot reach

Every part of the ledger is guarded by seats, controllers or minter records, and all of these are
parts of the ledger themselves. A coalition that signs whatever it likes stays within the authority
that it has at first: it gains none of the seats, and what the seats it lacks are in charge of is
left alone.
-/

namespace Stablecoin

/-- A record is as active as it was, with no more allowance. -/
structure MinterRecord.Dwindles (former later : MinterRecord) : Prop where
  active : later.active = former.active
  allowance : later.allowance ≤ former.allowance

namespace Ledger

/-- No member of a coalition holds a seat. -/
def Lacks (ledger : Ledger) (coalition : Set Account) (seat : Seat) : Prop :=
  ∀ who ∈ coalition, ledger.roles.holder seat ≠ some who

/-- No record was created or removed, none became active again and no allowance rose. -/
def Dwindles (former later : Ledger) : Prop :=
  ∀ minter : Account,
    Option.Rel MinterRecord.Dwindles former.minters[minter]? later.minters[minter]?

variable {ledger middle final : Ledger} {caller : Account} {event : Event}

theorem Dwindles.of_minters_eq (same : final.minters = ledger.minters) : ledger.Dwindles final := by
  intro minter
  rw [same]
  cases ledger.minters[minter]? with
  | none => exact .none
  | some record => exact .some ⟨rfl, UInt64.le_refl _⟩

theorem Dwindles.trans (first : ledger.Dwindles middle) (second : middle.Dwindles final) :
    ledger.Dwindles final := by
  intro minter
  have before := first minter
  have after := second minter
  generalize ledger.minters[minter]? = former at before ⊢
  generalize middle.minters[minter]? = between at before after
  generalize final.minters[minter]? = latter at after ⊢
  cases before with
  | none => exact after
  | some start =>
    cases after with
    | some finish =>
      exact .some ⟨finish.active.trans start.active,
        UInt64.le_trans finish.allowance start.allowance⟩

/-! ## The authority that a change needs -/

namespace Permits

theorem roles_apply (permitted : ledger.Permits caller event)
    (notOwner : ledger.roles.owner ≠ some caller)
    (notOffered : ledger.roles.pendingOwner ≠ some caller) :
    (ledger.apply event).roles = ledger.roles := by
  cases event with
  | ownershipOffered => exact absurd permitted.1 notOwner
  | ownershipAccepted => exact absurd permitted.1 notOffered
  | appointed => exact absurd permitted.1 notOwner
  | _ => rfl

theorem controllers_apply (permitted : ledger.Permits caller event)
    (notMaster : ledger.roles.masterMinter ≠ some caller) :
    (ledger.apply event).controllers = ledger.controllers := by
  cases event with
  | controllerAssigned => exact absurd permitted notMaster
  | controllerRemoved => exact absurd permitted.1 notMaster
  | _ => rfl

theorem paused_apply (permitted : ledger.Permits caller event)
    (notPauser : ledger.roles.pauser ≠ some caller) :
    (ledger.apply event).paused = ledger.paused := by
  cases event with
  | paused => exact absurd permitted notPauser
  | unpaused => exact absurd permitted notPauser
  | _ => rfl

theorem blacklist_apply (permitted : ledger.Permits caller event)
    (notBlacklister : ledger.roles.blacklister ≠ some caller) :
    (ledger.apply event).blacklist = ledger.blacklist := by
  cases event with
  | blacklisted => exact absurd permitted.1 notBlacklister
  | unblacklisted => exact absurd permitted.1 notBlacklister
  | _ => rfl

private theorem not_controls (notController : caller ∉ ledger.controllers)
    (minter : Account) : ledger.controllers[caller]? ≠ some minter := by
  rw [Std.ExtTreeMap.getElem?_eq_none notController]
  exact (Option.some_ne_none minter).symm

/-- Only a controller does more to a record than spend from it. -/
theorem dwindles_apply (permitted : ledger.Permits caller event)
    (notController : caller ∉ ledger.controllers) : ledger.Dwindles (ledger.apply event) := by
  cases event with
  | minterConfigured _ minter _ => exact absurd permitted.1 (not_controls notController minter)
  | minterRemoved _ minter => exact absurd permitted.1 (not_controls notController minter)
  | minted spender recipient amount =>
    intro minter
    by_cases own : spender = minter
    · subst own
      obtain ⟨former, later, before, after, active, spent⟩ := permitted.spends
      rw [before, after]
      refine .some ⟨active, ?_⟩
      rw [UInt64.le_iff_toNat_le]
      omega
    · rw [getElem?_minters_apply_of_ne own]
      exact Dwindles.of_minters_eq rfl minter
  | _ => exact .of_minters_eq rfl

/-- Only controllers and active minters touch the records and the bank. -/
theorem minters_bank_apply (permitted : ledger.Permits caller event)
    (notController : caller ∉ ledger.controllers)
    (notMinter : ledger.activeMinter? caller = none) :
    (ledger.apply event).minters = ledger.minters ∧ (ledger.apply event).bank = ledger.bank := by
  have powerless : ∀ record, ¬ ledger.Empowers caller record := by
    intro record power
    rw [power.active] at notMinter
    contradiction
  cases event with
  | minterConfigured _ minter _ => exact absurd permitted.1 (not_controls notController minter)
  | minterRemoved _ minter => exact absurd permitted.1 (not_controls notController minter)
  | minted _ _ _ =>
    obtain ⟨_, _, ⟨record, power, _⟩, _⟩ := permitted
    exact absurd power (powerless record)
  | burned _ _ =>
    obtain ⟨_, ⟨record, power⟩, _⟩ := permitted
    exact absurd power (powerless record)
  | _ => exact ⟨rfl, rfl⟩

end Permits

/-! ## Coalitions -/

/-- What a coalition leaves as it was at the start, by the authority that it has there. -/
structure Confined (coalition : Set Account) (start current : Ledger) : Prop where
  roles : current.roles = start.roles
  paused : start.Lacks coalition (.office .pauser) → current.paused = start.paused
  blacklist : start.Lacks coalition (.office .blacklister) → current.blacklist = start.blacklist
  controllers : start.Lacks coalition (.office .masterMinter) →
    current.controllers = start.controllers
  dwindles : start.Lacks coalition (.office .masterMinter) →
    (∀ who ∈ coalition, who ∉ start.controllers) → start.Dwindles current
  minters_bank : start.Lacks coalition (.office .masterMinter) →
    (∀ who ∈ coalition, who ∉ start.controllers) →
    (∀ who ∈ coalition, start.activeMinter? who = none) →
    current.minters = start.minters ∧ current.bank = start.bank

namespace Confined

variable {coalition : Set Account} {start current : Ledger}

theorem refl (coalition : Set Account) (start : Ledger) : Confined coalition start start where
  roles := rfl
  paused _ := rfl
  blacklist _ := rfl
  controllers _ := rfl
  dwindles _ _ := .of_minters_eq rfl
  minters_bank _ _ _ := ⟨rfl, rfl⟩

/-- The seats are what they were, so a seat that was lacking is lacking still. -/
theorem lacks (confined : Confined coalition start current) {seat : Seat}
    (lacking : start.Lacks coalition seat) : current.Lacks coalition seat := by
  intro who member
  rw [confined.roles]
  exact lacking who member

/-- No member of the coalition gets out of its confines in one step. -/
theorem apply (confined : Confined coalition start current)
    (notOwner : start.Lacks coalition .owner) (notOffered : start.Lacks coalition .pendingOwner)
    (acting : caller ∈ coalition) (permitted : current.Permits caller event) :
    Confined coalition start (current.apply event) := by
  have lacking : ∀ seat, start.Lacks coalition seat → current.roles.holder seat ≠ some caller :=
    fun _ lacking => confined.lacks lacking caller acting
  constructor
  case roles =>
    rw [permitted.roles_apply (lacking _ notOwner) (lacking _ notOffered), confined.roles]
  case paused =>
    intro notPauser
    rw [permitted.paused_apply (lacking _ notPauser), confined.paused notPauser]
  case blacklist =>
    intro notBlacklister
    rw [permitted.blacklist_apply (lacking _ notBlacklister), confined.blacklist notBlacklister]
  case controllers =>
    intro notMaster
    rw [permitted.controllers_apply (lacking _ notMaster), confined.controllers notMaster]
  case dwindles =>
    intro notMaster notControllers
    have notController : caller ∉ current.controllers := by
      rw [confined.controllers notMaster]
      exact notControllers caller acting
    exact (confined.dwindles notMaster notControllers).trans
      (permitted.dwindles_apply notController)
  case minters_bank =>
    intro notMaster notControllers notMinters
    have notController : caller ∉ current.controllers := by
      rw [confined.controllers notMaster]
      exact notControllers caller acting
    obtain ⟨minters, bank⟩ := confined.minters_bank notMaster notControllers notMinters
    have notMinter : current.activeMinter? caller = none := by
      rw [activeMinter?, minters]
      exact notMinters caller acting
    obtain ⟨sameMinters, sameBank⟩ := permitted.minters_bank_apply notController notMinter
    exact ⟨sameMinters.trans minters, sameBank.trans bank⟩

theorem of_evolves {history : List SignedEvent} (evolves : start.Evolves history final)
    (notOwner : start.Lacks coalition .owner) (notOffered : start.Lacks coalition .pendingOwner)
    (acting : ∀ signed ∈ history, signed.signer ∈ coalition) :
    Confined coalition start final := by
  refine evolves.preserves ?_ (refl coalition start)
  intro current signed member permitted confined
  exact confined.apply notOwner notOffered (acting signed member) permitted

end Confined

end Ledger

namespace Chain

/-- However far a coalition gets that signs every call, it stays within its confines. -/
theorem confined_after (chain : Chain) {coalition : Set Account} {commands : List Command}
    (regular : ∀ command ∈ commands, command.Regular)
    (acting : ∀ command ∈ commands, ∀ who ∈ command.signer?, who ∈ coalition)
    (notOwner : chain.ledger.Lacks coalition .owner)
    (notOffered : chain.ledger.Lacks coalition .pendingOwner) :
    Ledger.Confined coalition chain.ledger (chain.after commands).ledger := by
  refine .of_evolves (chain.evolves_history regular) notOwner notOffered ?_
  intro signed member
  obtain ⟨command, member, signer⟩ := exists_signer?_of_mem_history member
  exact acting command member _ signer

/-- A coalition without the ownership, held or offered, changes nothing that none of its members is
in charge of. -/
theorem no_escalation (chain : Chain) (coalition : Set Account) {commands : List Command}
    (regular : ∀ command ∈ commands, command.Regular)
    (acting : ∀ command ∈ commands, ∀ who ∈ command.signer?, who ∈ coalition)
    (notOwner : chain.ledger.Lacks coalition .owner)
    (notOffered : chain.ledger.Lacks coalition .pendingOwner)
    {past next : List Command} (within : past ++ next <+: commands) :
    let start := chain.ledger
    let former := (chain.after past).ledger
    let reached := (chain.after (past ++ next)).ledger
    reached.roles = start.roles ∧
    (start.Lacks coalition (.office .pauser) → reached.paused = start.paused) ∧
    (start.Lacks coalition (.office .blacklister) → reached.blacklist = start.blacklist) ∧
    (start.Lacks coalition (.office .masterMinter) →
      reached.controllers = start.controllers ∧
      ((∀ who ∈ coalition, who ∉ start.controllers) →
        former.Dwindles reached ∧
        ((∀ who ∈ coalition, start.activeMinter? who = none) →
          reached.minters = start.minters ∧ reached.bank = start.bank))) := by
  intro start former reached
  have early := (List.prefix_append past next).trans within
  have confined : Ledger.Confined coalition start reached :=
    chain.confined_after (fun command member => regular command (within.subset member))
      (fun command member => acting command (within.subset member)) notOwner notOffered
  have formerConfined : Ledger.Confined coalition start former :=
    chain.confined_after (fun command member => regular command (early.subset member))
      (fun command member => acting command (early.subset member)) notOwner notOffered
  refine ⟨confined.roles, confined.paused, confined.blacklist, fun notMaster => ?_⟩
  refine ⟨confined.controllers notMaster, fun notControllers => ⟨?_, ?_⟩⟩
  · -- The coalition starts anew from the former state, with the authority that it had at first.
    have later : ∀ command ∈ next, command ∈ commands := fun command member =>
      within.subset (List.mem_append_right past member)
    have anew := (chain.after past).confined_after
      (fun command member => regular command (later command member))
      (fun command member => acting command (later command member))
      (formerConfined.lacks notOwner) (formerConfined.lacks notOffered)
    rw [← after_append] at anew
    apply anew.dwindles (formerConfined.lacks notMaster)
    intro who member
    rw [formerConfined.controllers notMaster]
    exact notControllers who member
  · exact confined.minters_bank notMaster notControllers

open SampleHost in
/-- The minter of the sample host, with bob at its side, can only spend; the pauser and alice can
only stop it. -/
theorem no_escalation_of_minter_and_of_pauser :
    let spending : List Command :=
      [.dispatch (.signed minter) (.mint bob 30), .dispatch .root (.appoint .pauser bob),
        .submit (.signed bob) (.call (.offerOwnership bob)) []]
    let pausing : List Command :=
      [.dispatch (.signed pauser) .pause, .dispatch (.signed alice) (.mint alice 1)]
    let spent := (firstChain.after spending).ledger
    let stopped := (firstChain.after pausing).ledger
    (spent.roles = firstLedger.roles ∧ spent.paused = false ∧ firstLedger.Dwindles spent ∧
      spent.minters[minter]? = some ⟨70, true⟩) ∧
    stopped.roles = firstLedger.roles ∧ stopped.paused = true ∧
      stopped.minters = firstLedger.minters ∧ stopped.bank = firstLedger.bank := by
  intro spending pausing spent stopped
  constructor
  · have lacking : ∀ seat, firstLedger.Lacks {minter, bob} seat := by
      rintro (_ | _ | (_ | _ | _)) who (rfl | rfl) <;> decide
    have regular : ∀ command ∈ spending, command.Regular := by decide
    have acting : ∀ command ∈ spending, ∀ who ∈ command.signer?, who ∈ ({minter, bob} : Set _) := by
      simp [spending, Command.signer?]
    obtain ⟨roles, running, _, controlled⟩ :=
      no_escalation firstChain {minter, bob} regular acting (lacking _) (lacking _)
        (List.prefix_refl ([] ++ spending))
    have uncontrolled : ∀ who ∈ ({minter, bob} : Set _), who ∉ firstLedger.controllers := by
      rintro who (rfl | rfl) <;> decide +kernel
    obtain ⟨dwindles, _⟩ := (controlled (lacking _)).2 uncontrolled
    exact ⟨roles, running (lacking _), dwindles, by decide +kernel⟩
  · have lacking : ∀ seat ≠ .office .pauser, firstLedger.Lacks {pauser, alice} seat := by
      rintro (_ | _ | (_ | _ | _)) other who (rfl | rfl) <;> first | contradiction | decide
    have regular : ∀ command ∈ pausing, command.Regular := by decide
    have acting : ∀ command ∈ pausing, ∀ who ∈ command.signer?,
        who ∈ ({pauser, alice} : Set _) := by
      simp [pausing, Command.signer?]
    obtain ⟨roles, _, _, controlled⟩ :=
      no_escalation firstChain {pauser, alice} regular acting
        (lacking _ (by decide)) (lacking _ (by decide)) (List.prefix_refl ([] ++ pausing))
    have uncontrolled : ∀ who ∈ ({pauser, alice} : Set _), who ∉ firstLedger.controllers := by
      rintro who (rfl | rfl) <;> decide +kernel
    have powerless : ∀ who ∈ ({pauser, alice} : Set _), firstLedger.activeMinter? who = none := by
      rintro who (rfl | rfl) <;> decide +kernel
    obtain ⟨minters, bank⟩ := ((controlled (lacking _ (by decide))).2 uncontrolled).2 powerless
    exact ⟨roles, by decide +kernel, minters, bank⟩

end Chain

end Stablecoin
