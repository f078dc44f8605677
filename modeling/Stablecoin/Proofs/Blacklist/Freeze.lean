import Stablecoin.Proofs.Chain.Success
import Stablecoin.Proofs.Ledger.Denial
import Stablecoin.Proofs.Ledger.Records
import Stablecoin.Proofs.Wire.RoundTrip
import Stablecoin.SampleHost

/-! # Frozen accounts

A frozen account neither sends nor receives anything, nor does it act for others: calls, hooks,
intents, packets and transactions that involve it are refused, in whatever position they name it.
What it holds stays as it is until the blacklister frees it; only the allowance of a frozen minter
may still be set or taken away, by a controller that is in charge of it.
-/

namespace Stablecoin

namespace Ledger

variable {ledger start current : Ledger} {caller who : Account} {event : Event}

/-! ## What calls do to a frozen account -/

namespace Permits

variable {minter recipient : Account} {amount : Amount}

/-- Nothing is created by a frozen account or for it. -/
theorem free_of_minted (permitted : ledger.Permits caller (.minted minter recipient amount))
    (frozen : ledger.isBlacklisted who = true) : minter ≠ who ∧ recipient ≠ who := by
  obtain ⟨rfl, free, ⟨_, power, _⟩, _⟩ := permitted
  constructor <;> rintro rfl
  · exact Bool.false_ne_true (power.not_frozen.symm.trans frozen)
  · exact Bool.false_ne_true (free.symm.trans frozen)

/-- Nothing is destroyed by a frozen account. -/
theorem free_of_burned (permitted : ledger.Permits caller (.burned minter amount))
    (frozen : ledger.isBlacklisted who = true) : minter ≠ who := by
  obtain ⟨rfl, ⟨_, power⟩, _⟩ := permitted
  rintro rfl
  exact Bool.false_ne_true (power.not_frozen.symm.trans frozen)

/-- Only a controller that is in charge of a frozen minter changes its record. -/
theorem controls_frozen (permitted : ledger.Permits caller event)
    (frozen : ledger.isBlacklisted who = true)
    (changed : (ledger.apply event).minters[who]? ≠ ledger.minters[who]?) :
    ledger.controllers[caller]? = some who ∧
      (event.call = .removeMinter who ∨
        ∃ allowance, event.call = .configureMinter who allowance) := by
  rw [getElem?_minters_apply] at changed
  cases event with
  | minterConfigured controller configured allowance =>
    by_cases own : configured = who
    · subst own
      exact ⟨permitted.1, .inr ⟨allowance, rfl⟩⟩
    · exact absurd (if_neg own) changed
  | minterRemoved controller removed =>
    by_cases own : removed = who
    · subst own
      exact ⟨permitted.1, .inl rfl⟩
    · exact absurd (if_neg own) changed
  | minted spender recipient amount =>
    exact absurd (if_neg (permitted.free_of_minted frozen).1) changed
  | _ => exact absurd rfl changed

end Permits

/-- Since `start` an account has been frozen, and holds what it held then. -/
structure KeepsFrozen (who : Account) (start current : Ledger) : Prop where
  frozen : current.isBlacklisted who = true
  balance : current.bank.balanceOf who = start.bank.balanceOf who

namespace KeepsFrozen

/-- Nothing but freeing an account lets it move again. -/
theorem apply (keeps : KeepsFrozen who start current) (permitted : current.Permits caller event)
    (kept : event.call ≠ .unblacklist who) : KeepsFrozen who start (current.apply event) := by
  cases event with
  | blacklisted account =>
    refine ⟨?_, keeps.balance⟩
    rw [isBlacklisted_iff]
    exact Std.ExtTreeSet.mem_insert.mpr (.inr (isBlacklisted_iff.mp keeps.frozen))
  | unblacklisted account =>
    have other : account ≠ who := fun same => kept (congrArg Call.unblacklist same)
    refine ⟨?_, keeps.balance⟩
    rw [isBlacklisted_iff]
    refine Std.ExtTreeSet.mem_erase.mpr ⟨?_, isBlacklisted_iff.mp keeps.frozen⟩
    rwa [ne_eq, Std.LawfulEqCmp.compare_eq_iff_eq]
  | minted minter recipient amount =>
    refine ⟨keeps.frozen, ?_⟩
    rw [← keeps.balance]
    change (credited current.bank recipient amount).balanceOf who = _
    rw [Bank.balanceOf_credited, if_neg (permitted.free_of_minted keeps.frozen).2]
  | burned minter amount =>
    refine ⟨keeps.frozen, ?_⟩
    rw [← keeps.balance]
    change (debited current.bank minter amount).balanceOf who = _
    rw [Bank.balanceOf_debited, if_neg (permitted.free_of_burned keeps.frozen)]
  | _ => exact ⟨keeps.frozen, keeps.balance⟩

end KeepsFrozen

/-! ## Every way to move value -/

/-- Every way to move value of the controlled denomination is shut to an account, in whatever
position it is named. -/
structure ShutsOut (ledger : Ledger) (who : Account) : Prop where
  hooks : ∀ hook : Hook, hook.denomination = controlled → who ∈ hook.parties →
    ∃ denial : Denial Account, (ledger.checkHook hook).verdict = .error denial.refusal
  intents : ∀ intent : Intent Account Denomination, intent.denomination = controlled →
    who ∈ intent.parties → ∃ denial, (ledger.checkIntent intent).verdict = .error denial
  inbound : ∀ packet : Packet, packet.denomination = controlled → packet.Spells who →
    ledger.TurnsAway packet
  outbound : ∀ (caller : Account) (packet : Packet), packet.denomination = controlled →
    caller = who ∨ packet.Spells who → ledger.HoldsBack caller packet
  transactions : ∀ (feeDenomination : Denomination) (origin : Origin)
    (inspect : Account → List (Intent Account Denomination)),
    (∃ intent ∈ origin.intents inspect, intent.denomination = controlled ∧ who ∈ intent.parties) →
    ∃ denial : Denial Account,
      (ledger.validate feeDenomination origin (origin.intents inspect)).verdict =
        .error denial.invalidity
  fees : ∀ intents : List (Intent Account Denomination), ∃ denial : Denial Account,
    (ledger.validate controlled (.signed who) intents).verdict = .error denial.invalidity

section Frozen

variable (frozen : ledger.isBlacklisted who = true)

include frozen

theorem exists_denial?_of_frozen {denomination : Denomination} {movement : Movement Account}
    (inControl : denomination = controlled) (party : who ∈ movement.parties) :
    ∃ denial, ledger.denial? denomination movement = some denial := by
  rw [denial?_of_controlled inControl]
  exact Movement.exists_denial? frozen party

/-- A signed transaction is not admitted when any movement in it involves a frozen account. -/
theorem validate_of_frozen {feeDenomination : Denomination} {signer : Account}
    {intents : List (Intent Account Denomination)} {move : Denomination × Movement Account}
    (member : move ∈ transactionMoves feeDenomination signer intents)
    (inControl : move.1 = controlled) (party : who ∈ move.2.parties) :
    ∃ denial : Denial Account, (ledger.validate feeDenomination (.signed signer) intents).verdict =
      .error denial.invalidity := by
  obtain ⟨denial, denied⟩ := exists_denial?_of_frozen frozen inControl party
  obtain ⟨first, found⟩ := exists_firstDenial? member denied
  exact ⟨first, by rw [verdict_validate_signed, found]; rfl⟩

/-- A ledger shuts its frozen accounts out. -/
theorem shutsOut_of_frozen : ledger.ShutsOut who where
  hooks hook inControl named := by
    rw [← hook.parties_movement] at named
    obtain ⟨denial, denied⟩ := exists_denial?_of_frozen frozen inControl named
    exact ⟨denial, by rw [verdict_checkHook, denied]; rfl⟩
  intents intent inControl named := by
    rw [← intent.parties_movement] at named
    obtain ⟨denial, denied⟩ := exists_denial?_of_frozen frozen inControl named
    exact ⟨denial, by rw [verdict_checkIntent, denied]; rfl⟩
  inbound packet inControl spells := by
    refine turnsAway_of_denied inControl fun receiver spelled => ?_
    refine Movement.exists_denial? frozen (Packet.mem_parties_inboundMovement.mpr ?_)
    -- The remote party counts as well, since its address spells a local account.
    obtain sent | received := spells
    · exact .inl (sent ▸ Account.ofBytes?_encode who)
    · rw [received, Account.ofBytes?_encode] at spelled
      exact .inr (Option.some.inj spelled).symm
  outbound caller packet inControl involved := by
    refine holdsBack_of_denied inControl fun sender spelled => ?_
    refine Movement.exists_denial? frozen (Packet.mem_parties_outboundMovement.mpr ?_)
    obtain called | sent | received := involved
    · exact .inl called
    · rw [sent, Account.ofBytes?_encode] at spelled
      exact .inr (.inl (Option.some.inj spelled).symm)
    · exact .inr (.inr (received ▸ Account.ofBytes?_encode who))
  transactions feeDenomination origin inspect touched := by
    obtain ⟨intent, member, inControl, named⟩ := touched
    rw [← intent.parties_movement] at named
    cases origin with
    | signed signer =>
      have moved : intent.move ∈ transactionMoves feeDenomination signer (inspect signer) :=
        List.mem_append_left _ (List.mem_map_of_mem member)
      exact validate_of_frozen frozen moved inControl named
    | root | unsigned => contradiction
  fees intents := by
    have paid : (controlled, .fee who) ∈ transactionMoves controlled who intents :=
      List.mem_append_right _ (List.mem_singleton.mpr rfl)
    exact validate_of_frozen frozen paid rfl List.mem_cons_self

end Frozen

end Ledger

namespace Chain

section Frozen

variable {chain : Chain} {command : Command} {who : Account}
  (frozen : chain.ledger.isBlacklisted who = true)

include frozen

theorem not_carriesOut_mint_of_frozen {recipient : Account} {amount : Amount}
    (calls : command.call? = some (.mint recipient amount))
    (involved : command.signer? = some who ∨ recipient = who) : ¬ chain.CarriesOut command := by
  intro carries
  obtain ⟨signer, event, same, advances⟩ := carries.advances calls
  obtain ⟨minter, rfl⟩ := Event.eq_minted_of_call same
  obtain ⟨notMinter, notRecipient⟩ := advances.permitted.free_of_minted frozen
  obtain signed | received := involved
  · rw [advances.signed] at signed
    exact notMinter (advances.permitted.1.trans (Option.some.inj signed))
  · exact notRecipient received

theorem not_carriesOut_burn_of_frozen {amount : Amount}
    (calls : command.call? = some (.burn amount)) (signed : command.signer? = some who) :
    ¬ chain.CarriesOut command := by
  intro carries
  obtain ⟨signer, event, same, advances⟩ := carries.advances calls
  obtain ⟨minter, rfl⟩ := Event.eq_burned_of_call same
  have notMinter := advances.permitted.free_of_burned frozen
  rw [advances.signed] at signed
  exact notMinter (advances.permitted.1.trans (Option.some.inj signed))

/-- A command changes the record of a frozen minter only as a call of a controller in charge. -/
theorem controls_frozen_of_step (regular : command.Regular)
    (changed : (chain.step command).chain.ledger.minters[who]? ≠ chain.ledger.minters[who]?) :
    chain.CarriesOut command ∧ ∃ controller, command.signer? = some controller ∧
      chain.ledger.controllers[controller]? = some who ∧
      (command.call? = some (.removeMinter who) ∨
        ∃ allowance, command.call? = some (.configureMinter who allowance)) := by
  obtain ⟨signer, event, advances⟩ | rests := chain.step_cases regular
  · rw [advances.ledger] at changed
    obtain ⟨controls, called⟩ := advances.permitted.controls_frozen frozen changed
    refine ⟨advances.carriesOut, signer, advances.signed, controls, ?_⟩
    rw [advances.called]
    exact called.imp (congrArg some) fun ⟨allowance, call⟩ => ⟨allowance, congrArg some call⟩
  · rw [rests.ledger] at changed
    exact absurd rfl changed

end Frozen

/-- Until an unblacklist of it succeeds, a frozen account stays frozen, keeps its balance and is
shut out of everything. -/
theorem frozen_until_unblacklisted (chain : Chain) (who : Account) {commands : List Command}
    (regular : ∀ command ∈ commands, command.Regular)
    (frozen : chain.ledger.isBlacklisted who = true)
    (kept : .unblacklist who ∉ chain.achieved commands) {past : List Command}
    (within : past <+: commands) :
    let reached := chain.after past
    reached.ledger.isBlacklisted who = true ∧
    reached.ledger.bank.balanceOf who = chain.ledger.bank.balanceOf who ∧
    (∀ (command : Command) (recipient : Account) (amount : Amount),
      command.call? = some (.mint recipient amount) →
      command.signer? = some who ∨ recipient = who → ¬ reached.CarriesOut command) ∧
    (∀ (command : Command) (amount : Amount), command.call? = some (.burn amount) →
      command.signer? = some who → ¬ reached.CarriesOut command) ∧
    (∀ command : Command, command.Regular →
      (reached.step command).chain.ledger.minters[who]? ≠ reached.ledger.minters[who]? →
      reached.CarriesOut command ∧ ∃ controller, command.signer? = some controller ∧
        reached.ledger.controllers[controller]? = some who ∧
        (command.call? = some (.removeMinter who) ∨
          ∃ allowance, command.call? = some (.configureMinter who allowance))) ∧
    reached.ledger.ShutsOut who := by
  intro reached
  have others : ∀ call ∈ chain.achieved commands, call ≠ .unblacklist who :=
    fun call achieved same => kept (same ▸ achieved)
  have keeps : Ledger.KeepsFrozen who chain.ledger reached.ledger := by
    refine preserves_of_allowed ?_ regular others ⟨frozen, rfl⟩ within
    intro current caller event permitted other keeps
    exact keeps.apply permitted other
  refine ⟨keeps.frozen, keeps.balance, ?_, ?_, ?_, Ledger.shutsOut_of_frozen keeps.frozen⟩
  · intro command recipient amount calls involved
    exact not_carriesOut_mint_of_frozen keeps.frozen calls involved
  · intro command amount calls signed
    exact not_carriesOut_burn_of_frozen keeps.frozen calls signed
  · intro command regular changed
    exact controls_frozen_of_step keeps.frozen regular changed

open SampleHost in
/-- The frozen minter of the sample host gets an allowance but can neither spend it nor burn what it
holds. -/
theorem frozen_until_unblacklisted_of_sample :
    let start : Chain := ⟨{ firstLedger with blacklist := .ofList [minter] }, otherDenomination⟩
    let commands : List Command :=
      [.dispatch (.signed minter) (.mint bob 1),
        .dispatch (.signed controller) (.configureMinter minter 7),
        .dispatch (.signed blacklister) (.blacklist bob),
        .dispatch (.signed alice) (.unblacklist minter),
        .submit (.signed blacklister) (.call (.unblacklist bob)) []]
    let packet : Packet := ⟨controlled, 1, [], Codec.word64.encode minter⟩
    let transfer : HostCall := .bank (.transferAllowDeath minter 1)
    let reached := start.after commands
    start.achieved commands = [.configureMinter minter 7, .blacklist bob, .unblacklist bob] ∧
      reached.ledger.isBlacklisted minter = true ∧ reached.ledger.bank.balanceOf minter = 50 ∧
      reached.ledger.minters[minter]? = some ⟨7, true⟩ ∧
      ¬ reached.CarriesOut (.dispatch (.signed minter) (.burn 1)) ∧
      reached.ledger.TurnsAway packet ∧
      ∃ denial : Denial Account, (reached.ledger.validate otherDenomination (.signed alice)
        (intentsOf (.signed alice) transfer)).verdict = .error denial.invalidity := by
  intro start commands packet transfer reached
  have achieved : start.achieved commands =
      [.configureMinter minter 7, .blacklist bob, .unblacklist bob] := by decide +kernel
  have kept : Call.unblacklist minter ∉ start.achieved commands := by
    rw [achieved]
    decide
  obtain ⟨frozen, balance, _, noBurn, _, shut⟩ := frozen_until_unblacklisted start minter
    (by decide) (by decide +kernel) kept (List.prefix_refl commands)
  have named : ∃ intent ∈ (Origin.signed alice).intents (inspect · transfer),
      intent.denomination = controlled ∧ minter ∈ intent.parties :=
    ⟨.send alice minter controlled 1, List.mem_cons_self, rfl, by decide⟩
  exact ⟨achieved, frozen, balance, by decide +kernel, noBurn _ 1 rfl rfl,
    shut.inbound packet rfl (.inr rfl), shut.transactions _ (.signed alice) _ named⟩

end Chain

end Stablecoin
