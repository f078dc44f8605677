import Stablecoin.Proofs.Genesis.Build
import Stablecoin.Proofs.Minting.Obstacle
import Stablecoin.Proofs.Minting.WindDown

/-! # Active and inactive records

A record is written by a configuration, which makes it active, or by minting, which leaves it as
active as it was, so a record that is not active was written past the checks. Without such a write
all records are active, and the two questions about a minter have the same answers. With it, the
account is suspended: it is no minter until a controller in charge of it configures it again or
takes the record away.
-/

namespace Stablecoin

/-- An event leaves the record of a minter as active as it was, takes it away, or configures it. -/
theorem Event.updateRecord_cases (event : Event) (minter : Account)
    (record? : Option MinterRecord) :
    (event.updateRecord minter record?).map (·.active) = record?.map (·.active) ∨
      event.updateRecord minter record? = none ∨
      ∃ controller allowance, event = .minterConfigured controller minter allowance ∧
        event.updateRecord minter record? = some ⟨allowance, true⟩ := by
  -- What tells nothing of the record may still spend from it, which leaves the flag alone.
  cases told : event.enlists? minter with
  | none => exact .inl (map_active_updateRecord told record?)
  | some granted =>
    cases event with
    | minterConfigured controller configured allowance =>
      obtain ⟨rfl, _⟩ := Option.ite_none_right_eq_some.mp told
      exact .inr (.inr ⟨controller, allowance, rfl, if_pos rfl⟩)
    | minterRemoved controller removed =>
      obtain ⟨rfl, _⟩ := Option.ite_none_right_eq_some.mp told
      exact .inr (.inl (if_pos rfl))
    | _ => contradiction

/-! ## Active records -/

namespace Ledger

/-- Every record that is stored is active. -/
def AllActive (ledger : Ledger) : Prop :=
  ∀ (minter : Account) (record : MinterRecord),
    ledger.minters[minter]? = some record → record.active = true

variable {ledger : Ledger} {minter : Account} {record : MinterRecord}

theorem activeMinter_eq_ok_iff :
    ledger.activeMinter minter = .ok record ↔ ledger.activeMinter? minter = some record := by
  rw [activeMinter]
  cases ledger.activeMinter? minter <;> simp

theorem minterEntry_eq_ok_iff :
    ledger.minterEntry minter = .ok record ↔ ledger.minters[minter]? = some record := by
  rw [minterEntry]
  cases ledger.minters[minter]? <;> simp

/-- Where all records are active, it makes no difference whether one asks for active ones. -/
theorem AllActive.activeMinter_eq_ok_iff (active : ledger.AllActive) :
    ledger.activeMinter minter = .ok record ↔ ledger.minterEntry minter = .ok record := by
  rw [Ledger.activeMinter_eq_ok_iff, minterEntry_eq_ok_iff, activeMinter?_eq_some_iff]
  exact and_iff_left_of_imp (active minter record)

theorem AllActive.apply (active : ledger.AllActive) (event : Event) :
    (ledger.apply event).AllActive := by
  intro minter record found
  rw [getElem?_minters_apply] at found
  rcases event.updateRecord_cases minter ledger.minters[minter]? with
    same | gone | ⟨_, allowance, _, granted⟩
  · rw [found, Option.map_some] at same
    obtain ⟨former, before, still⟩ := Option.map_eq_some_iff.mp same.symm
    rw [← still]
    exact active minter former before
  · rw [gone] at found
    contradiction
  · rw [granted] at found
    cases found
    rfl

end Ledger

theorem Genesis.allActive_of_build {genesis : Genesis} {ledger : Ledger}
    (built : genesis.build = .ok ledger) : ledger.AllActive := by
  intro minter record found
  rw [getElem?_minters_of_build built] at found
  obtain ⟨allowance, _, rfl⟩ := Option.map_eq_some_iff.mp found
  rfl

namespace Chain

variable {chain : Chain} {command : Command} {commands : List Command}

/-- One command keeps all records active, unless it writes an inactive one past the checks. -/
theorem allActive_step (active : chain.ledger.AllActive)
    (written : ∀ minter record, command = .writeMinter minter record → record.active = true) :
    (chain.step command).chain.ledger.AllActive := by
  by_cases regular : command.Regular
  · rcases chain.step_cases regular with ⟨signer, event, advances⟩ | rests
    · rw [advances.ledger]
      exact active.apply event
    · rw [rests.ledger]
      exact active
  · -- Of what is written past the checks, only a record is among the records.
    cases command with
    | vacate seat => exact active
    | writeMinter minter record =>
      intro other stored found
      change (chain.ledger.minters.insert minter record)[other]? = some stored at found
      rw [Std.ExtTreeMap.getElem?_insert] at found
      split at found
      · cases found
        exact written minter record rfl
      · exact active other stored found
    | _ => exact absurd trivial regular

theorem allActive_after (active : chain.ledger.AllActive)
    (written : ∀ minter record, .writeMinter minter record ∈ commands → record.active = true) :
    (chain.after commands).ledger.AllActive := by
  induction commands generalizing chain with
  | nil => exact active
  | cons command rest ih =>
    have first : (chain.step command).chain.ledger.AllActive := by
      refine allActive_step active fun minter record same => ?_
      exact written minter record (same ▸ List.mem_cons_self)
    exact ih first fun minter record member =>
      written minter record (List.mem_cons_of_mem _ member)

end Chain

/-! ## Inactive records -/

namespace Ledger

variable {ledger : Ledger} {caller controller minter : Account} {event : Event}
  {record : MinterRecord}

/-- Only its configuration makes a minter of an account that was none. -/
theorem Permits.eq_minterConfigured (permitted : ledger.Permits caller event)
    (inactive : ledger.activeMinter? minter = none)
    (activated : (ledger.apply event).activeMinter? minter = some record) :
    event = .minterConfigured caller minter record.allowance := by
  obtain ⟨found, active⟩ := activeMinter?_eq_some_iff.mp activated
  rw [getElem?_minters_apply] at found
  rcases event.updateRecord_cases minter ledger.minters[minter]? with
    same | gone | ⟨controller, allowance, rfl, granted⟩
  · -- An active record that was only spent from was active before.
    rw [found, Option.map_some, active] at same
    exact absurd same.symm (activeMinter?_eq_none_iff.mp inactive)
  · rw [gone] at found
    contradiction
  · rw [granted] at found
    cases found
    obtain ⟨_, rfl, _⟩ := permitted
    rfl

section Refused

variable (running : ledger.paused = false) (inactive : ledger.activeMinter? minter = none)

include running inactive

theorem dispatch_mint_of_inactive (recipient : Account) (amount : Amount) :
    ledger.dispatch (.signed minter) (.mint recipient amount) =
      ⟨.error (.refused .notMinter), [], [], ledger⟩ :=
  dispatch_of_judge_error
    (Call.judge_mint_eq_error_iff.mpr (.minter (.noRecord running inactive)))

theorem dispatch_burn_of_inactive (amount : Amount) :
    ledger.dispatch (.signed minter) (.burn amount) =
      ⟨.error (.refused .notMinter), [], [], ledger⟩ :=
  dispatch_of_judge_error
    (Call.judge_burn_eq_error_iff.mpr (.minter (.noRecord running inactive)))

end Refused

section Controller

variable (charged : ledger.controllers[controller]? = some minter)

include charged

/-- A controller removes the record of its minter, whether or not the ledger is paused. -/
theorem dispatch_removeMinter (present : minter ∈ ledger.minters) :
    ledger.dispatch (.signed controller) (.removeMinter minter) =
      ⟨.ok (), [.minterRemoved controller minter], [],
        { ledger with minters := ledger.minters.erase minter }⟩ := by
  have permitted : ledger.Permits controller (.minterRemoved controller minter) :=
    ⟨charged, rfl, present⟩
  exact dispatch_of_permits permitted

/-- A controller configures its minter as long as the ledger is running. -/
theorem dispatch_configureMinter (allowance : Amount) :
    ledger.dispatch (.signed controller) (.configureMinter minter allowance) =
      if ledger.paused then ⟨.error (.refused .mintingPaused), [], [], ledger⟩
      else ⟨.ok (), [.minterConfigured controller minter allowance], [],
        { ledger with minters := ledger.minters.insert minter ⟨allowance, true⟩ }⟩ := by
  split
  · next paused =>
    have controls : ledger.requireControl controller minter = .ok () :=
      requireControl_eq_ok_iff.mpr charged
    refine dispatch_of_judge_error (bind_eq_error_iff.mpr (.inr ⟨(), controls, ?_⟩))
    refine bind_eq_error_iff.mpr (.inl (require_eq_error_iff.mpr ⟨?_, rfl⟩))
    rw [paused]
    decide
  · next running =>
    have permitted : ledger.Permits controller (.minterConfigured controller minter allowance) :=
      ⟨charged, rfl, Bool.not_eq_true _ ▸ running⟩
    exact dispatch_of_permits permitted

end Controller

end Ledger

namespace Chain

variable {chain : Chain} {command : Command} {commands : List Command} {minter : Account}
  {record : MinterRecord}

/-- What it means for an account that its record is inactive. -/
structure Suspends (chain : Chain) (minter : Account) : Prop where
  /-- The account becomes a minter by nothing but a configuration that goes through, which a
  controller in charge of it signs. -/
  activation : ∀ (command : Command) (record : MinterRecord), command.Regular →
    (chain.step command).chain.ledger.activeMinter? minter = some record →
    chain.CarriesOut command ∧
      command.call? = some (.configureMinter minter record.allowance) ∧
      ∃ controller, command.signer? = some controller ∧
        chain.ledger.controllers[controller]? = some minter
  /-- It is no minter after any history in which no configuration of it goes through. -/
  meanwhile : ∀ commands : List Command, (∀ command ∈ commands, command.Regular) →
    (∀ allowance, .configureMinter minter allowance ∉ chain.achieved commands) →
    (chain.after commands).ledger.activeMinter? minter = none
  minting : chain.ledger.paused = false → ∀ recipient amount,
    chain.ledger.dispatch (.signed minter) (.mint recipient amount) =
      ⟨.error (.refused .notMinter), [], [], chain.ledger⟩
  burning : chain.ledger.paused = false → ∀ amount,
    chain.ledger.dispatch (.signed minter) (.burn amount) =
      ⟨.error (.refused .notMinter), [], [], chain.ledger⟩
  removal : ∀ controller, chain.ledger.controllers[controller]? = some minter →
    chain.ledger.dispatch (.signed controller) (.removeMinter minter) =
      ⟨.ok (), [.minterRemoved controller minter], [],
        { chain.ledger with minters := chain.ledger.minters.erase minter }⟩
  reactivation : ∀ controller allowance, chain.ledger.controllers[controller]? = some minter →
    chain.ledger.dispatch (.signed controller) (.configureMinter minter allowance) =
      if chain.ledger.paused then ⟨.error (.refused .mintingPaused), [], [], chain.ledger⟩
      else ⟨.ok (), [.minterConfigured controller minter allowance], [],
        { chain.ledger with
          minters := chain.ledger.minters.insert minter ⟨allowance, true⟩ }⟩

theorem configures_of_activated (regular : command.Regular)
    (inactive : chain.ledger.activeMinter? minter = none)
    (activated : (chain.step command).chain.ledger.activeMinter? minter = some record) :
    chain.CarriesOut command ∧
      command.call? = some (.configureMinter minter record.allowance) ∧
      ∃ controller, command.signer? = some controller ∧
        chain.ledger.controllers[controller]? = some minter := by
  rcases chain.step_cases regular with ⟨signer, event, advances⟩ | rests
  · rw [advances.ledger] at activated
    obtain rfl := advances.permitted.eq_minterConfigured inactive activated
    exact ⟨advances.carriesOut, advances.called, signer, advances.signed, advances.permitted.1⟩
  · rw [rests.ledger, inactive] at activated
    contradiction

theorem activeMinter?_after_eq_none (regular : ∀ command ∈ commands, command.Regular)
    (kept : ∀ allowance, .configureMinter minter allowance ∉ chain.achieved commands)
    (inactive : chain.ledger.activeMinter? minter = none) :
    (chain.after commands).ledger.activeMinter? minter = none := by
  have others : ∀ call ∈ chain.achieved commands,
      ∀ allowance, call ≠ .configureMinter minter allowance :=
    fun call achieved allowance same => kept allowance (same ▸ achieved)
  refine preserves_of_allowed (P := (·.activeMinter? minter = none)) ?_ regular others inactive
    List.prefix_rfl
  intro current caller event permitted other inactive
  cases after : (current.apply event).activeMinter? minter with
  | none => rfl
  | some record =>
    have configured := permitted.eq_minterConfigured inactive after
    exact absurd (congrArg Event.call configured) (other record.allowance)

theorem suspends_of_inactive (found : chain.ledger.minters[minter]? = some record)
    (inactive : record.active = false) : chain.Suspends minter := by
  have noMinter : chain.ledger.activeMinter? minter = none := by
    rw [Ledger.activeMinter?_eq_none_iff, found, Option.map_some, inactive]
    decide
  have present : minter ∈ chain.ledger.minters :=
    Std.ExtTreeMap.mem_iff_isSome_getElem?.mpr (Option.isSome_of_eq_some found)
  exact
    { activation := fun _ _ regular activated => configures_of_activated regular noMinter activated
      meanwhile := fun _ regular kept => activeMinter?_after_eq_none regular kept noMinter
      minting := fun running => Ledger.dispatch_mint_of_inactive running noMinter
      burning := fun running => Ledger.dispatch_burn_of_inactive running noMinter
      removal := fun _ charged => Ledger.dispatch_removeMinter charged present
      reactivation := fun _ allowance charged => Ledger.dispatch_configureMinter charged allowance }

end Chain

/-- From an accepted genesis on every stored record is active, and an inactive one suspends its
account in any state. -/
theorem stored_minters_active :
    (∀ (genesis : Genesis) (ledger : Ledger) (feeDenomination : Denomination)
        (commands : List Command), genesis.build = .ok ledger →
      (∀ minter record, .writeMinter minter record ∈ commands → record.active = true) →
      let reached := (Chain.after ⟨ledger, feeDenomination⟩ commands).ledger
      reached.AllActive ∧
        ∀ minter record,
          reached.activeMinter minter = .ok record ↔ reached.minterEntry minter = .ok record) ∧
    ∀ (chain : Chain) (minter : Account) (record : MinterRecord),
      chain.ledger.minters[minter]? = some record → record.active = false →
      chain.Suspends minter := by
  constructor
  · intro genesis ledger feeDenomination commands built written reached
    have first : ledger.AllActive := Genesis.allActive_of_build built
    have active : reached.AllActive := Chain.allActive_after first written
    exact ⟨active, fun _ _ => active.activeMinter_eq_ok_iff⟩
  · intro chain minter record found inactive
    exact Chain.suspends_of_inactive found inactive

open SampleHost in
/-- Charlie's record is found either way; the minter's, made inactive, suspends it until its
controller acts. -/
theorem stored_minters_active_of_suspended_minter :
    let commands : List Command :=
      [.dispatch (.signed minter) (.mint bob 30),
        .dispatch (.signed masterMinter) (.assignController alice charlie),
        .submit (.signed alice) (.call (.configureMinter charlie 7)) [],
        .dispatch (.signed controller) (.removeMinter minter), .writeMinter bob ⟨5, true⟩]
    let reached := (firstChain.after commands).ledger
    let chain : Chain := firstChain.after [.writeMinter minter ⟨100, false⟩]
    let attempts : List Command :=
      [.dispatch (.signed controller) (.configureMinter charlie 9),
        .dispatch (.signed minter) (.configureMinter minter 9)]
    genesis.build = .ok firstLedger ∧
      (∀ minter record, .writeMinter minter record ∈ commands → record.active = true) ∧
      reached.activeMinter charlie = .ok ⟨7, true⟩ ∧ reached.minterEntry charlie = .ok ⟨7, true⟩ ∧
      chain.ledger.minters[minter]? = some ⟨100, false⟩ ∧
      (chain.ledger.dispatch (.signed minter) (.mint bob 0)).reply =
        .error (.refused .notMinter) ∧
      (chain.ledger.dispatch (.signed minter) (.burn 0)).reply = .error (.refused .notMinter) ∧
      (chain.after attempts).ledger.activeMinter? minter = none ∧
      (chain.ledger.dispatch (.signed controller) (.removeMinter minter)).reply = .ok () ∧
      (chain.ledger.dispatch (.signed controller) (.configureMinter minter 70)).ledger =
        { chain.ledger with minters := chain.ledger.minters.insert minter ⟨70, true⟩ } := by
  intro commands reached chain attempts
  have written : ∀ minter record, .writeMinter minter record ∈ commands → record.active = true := by
    simp [commands]
  have shown : reached.minterEntry charlie = .ok ⟨7, true⟩ := by decide +kernel
  have found : chain.ledger.minters[minter]? = some ⟨100, false⟩ := by decide +kernel
  have running : chain.ledger.paused = false := rfl
  have charged : chain.ledger.controllers[controller]? = some minter := by decide +kernel
  have nothing : chain.achieved attempts = [] := by decide +kernel
  obtain ⟨_, same⟩ :=
    stored_minters_active.1 genesis firstLedger otherDenomination commands build_genesis written
  have suspends := stored_minters_active.2 chain minter ⟨100, false⟩ found rfl
  exact ⟨build_genesis, written, (same _ _).mpr shown, shown, found,
    congrArg Outcome.reply (suspends.minting running bob 0),
    congrArg Outcome.reply (suspends.burning running 0),
    suspends.meanwhile attempts (by decide) (by simp [nothing]),
    congrArg Outcome.reply (suspends.removal controller charged),
    congrArg Outcome.ledger (suspends.reactivation controller 70 charged)⟩

end Stablecoin
