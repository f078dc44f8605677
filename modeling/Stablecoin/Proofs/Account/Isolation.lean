import Stablecoin.Proofs.Chain.Comparison
import Stablecoin.Proofs.Chain.Evolution
import Stablecoin.Proofs.Ledger.Locality
import Stablecoin.Proofs.Ledger.Records
import Stablecoin.SampleHost

/-! # Accounts are isolated from each other

Under the key of an account a ledger keeps whether it is frozen, its record as a minter and the
minter that it is in charge of. A command that does not concern the account, be it as its signer, as
an argument or as an address in a packet, neither reads these entries nor writes them. So runs of
such commands that start from ledgers which differ in the entries of one account cannot be told
apart, and the difference never spreads.
-/

namespace Stablecoin

/-- What a ledger keeps under the key of one account. -/
structure AccountEntries where
  frozen : Bool
  /-- The record of the account as a minter. -/
  record : Option MinterRecord
  /-- The minter that the account is in charge of. -/
  charge : Option Account
deriving DecidableEq

namespace Ledger

/-- The entries of an account. -/
def entriesOf (ledger : Ledger) (who : Account) : AccountEntries :=
  ⟨ledger.isBlacklisted who, ledger.minters[who]?, ledger.controllers[who]?⟩

/-- The ledgers differ at most in the entries of one account. -/
structure EqualBut (who : Account) (left right : Ledger) : Prop where
  roles : left.roles = right.roles
  paused : left.paused = right.paused
  bank : left.bank = right.bank
  entries : ∀ other, other ≠ who → left.entriesOf other = right.entriesOf other

end Ledger

/-! ## What concerns an account -/

/-- The accounts that a call names. -/
def Call.parties : Call → List Account
  | .acceptOwnership | .pause | .unpause | .burn _ => []
  | .offerOwnership who | .appoint _ who | .blacklist who | .unblacklist who
  | .removeController who | .configureMinter who _ | .removeMinter who | .mint who _ => [who]
  | .assignController controller minter => [controller, minter]

/-- The accounts that the payload of a transaction names. -/
def Payload.parties : Payload → List Account
  | .call asked => asked.parties
  | .remark => []

/-- The command neither involves the account nor asks questions nor writes past the checks. -/
def Command.Avoids (who : Account) : Command → Prop
  | .dispatch origin call => origin ≠ .signed who ∧ who ∉ call.parties
  | .check hook => who ∉ hook.parties
  | .checkIntent intent => who ∉ intent.parties
  | .validate origin intents => origin ≠ .signed who ∧ ∀ intent ∈ intents, who ∉ intent.parties
  | .submit origin payload intents =>
      origin ≠ .signed who ∧ who ∉ payload.parties ∧ ∀ intent ∈ intents, who ∉ intent.parties
  | .receive packet _ => ¬ packet.Spells who
  | .send caller packet _ => caller ≠ who ∧ ¬ packet.Spells who
  | .setFeeDenomination _ => True
  | .query _ | .vacate _ | .writeMinter _ _ => False

/-! ## What events do to entries -/

/-- The entries of an account after an event. -/
def Event.updateEntries (who : Account) (entries : AccountEntries) (event : Event) :
    AccountEntries where
  frozen :=
    match event with
    | .blacklisted account => if account = who then true else entries.frozen
    | .unblacklisted account => if account = who then false else entries.frozen
    | _ => entries.frozen
  record := event.updateRecord who entries.record
  charge :=
    match event with
    | .controllerAssigned controller minter =>
        if controller = who then some minter else entries.charge
    | .controllerRemoved controller _ => if controller = who then none else entries.charge
    | _ => entries.charge

namespace Ledger

variable {left right ledger : Ledger} {who caller : Account} {event : Event} {call : Call}

theorem entriesOf_apply (ledger : Ledger) (event : Event) (who : Account) :
    (ledger.apply event).entriesOf who = event.updateEntries who (ledger.entriesOf who) := by
  simp only [entriesOf, Event.updateEntries, getElem?_minters_apply, AccountEntries.mk.injEq,
    true_and]
  constructor
  · cases event with
    | blacklisted account => grind [apply, isBlacklisted]
    | unblacklisted account => grind [apply, isBlacklisted]
    | _ => rfl
  · cases event with
    | controllerAssigned controller minter =>
      simp only [apply, Std.ExtTreeMap.getElem?_insert, Std.LawfulEqCmp.compare_eq_iff_eq]
    | controllerRemoved controller minter =>
      simp only [apply, Std.ExtTreeMap.getElem?_erase, Std.LawfulEqCmp.compare_eq_iff_eq]
    | _ => rfl

/-- An event leaves the entries alone of whoever neither signed its call nor is named in it. -/
theorem Permits.updateEntries_of_aside (permitted : ledger.Permits caller event)
    (unsigned : caller ≠ who) (unnamed : who ∉ event.call.parties) (entries : AccountEntries) :
    event.updateEntries who entries = entries := by
  cases event with
  | blacklisted account | unblacklisted account | controllerRemoved account _
  | minterConfigured _ account _ | minterRemoved _ account =>
    have other : account ≠ who := (List.ne_of_not_mem_cons unnamed).symm
    simp only [Event.updateEntries, Event.updateRecord, if_neg other]
  | controllerAssigned controller minter =>
    have other : controller ≠ who := (List.ne_of_not_mem_cons unnamed).symm
    simp only [Event.updateEntries, Event.updateRecord, if_neg other]
  | minted minter recipient amount =>
    obtain ⟨rfl, _⟩ := permitted
    simp only [Event.updateEntries, Event.updateRecord, if_neg unsigned]
  | _ => rfl

namespace EqualBut

/-- An event writes the same to both ledgers, whomever it concerns. -/
theorem apply (equal : left.EqualBut who right) (event : Event) :
    (left.apply event).EqualBut who (right.apply event) where
  roles := by cases event <;> simp only [Ledger.apply, Ledger.assign, equal.roles]
  paused := by cases event <;> simp only [Ledger.apply, Ledger.assign, equal.paused]
  bank := by cases event <;> simp only [Ledger.apply, Ledger.assign, equal.bank]
  entries other apart := by
    rw [entriesOf_apply, entriesOf_apply, equal.entries other apart]

/-! ## What calls and screening read -/

variable (equal : left.EqualBut who right)
include equal

theorem requireSeat (seat : Seat) (caller : Account) :
    left.requireSeat seat caller = right.requireSeat seat caller := by
  rw [Ledger.requireSeat, Ledger.requireSeat, equal.roles]

variable {other : Account} (apart : other ≠ who)
include apart

theorem isBlacklisted : left.isBlacklisted other = right.isBlacklisted other :=
  congrArg AccountEntries.frozen (equal.entries other apart)

theorem record : left.minters[other]? = right.minters[other]? :=
  congrArg AccountEntries.record (equal.entries other apart)

theorem charge : left.controllers[other]? = right.controllers[other]? :=
  congrArg AccountEntries.charge (equal.entries other apart)

theorem requireControl (minter : Account) :
    left.requireControl other minter = right.requireControl other minter := by
  rw [Ledger.requireControl, Ledger.requireControl, equal.charge apart]

theorem requireController : left.requireController other = right.requireController other := by
  rw [Ledger.requireController, Ledger.requireController, equal.charge apart]

theorem mem_minters_iff : other ∈ left.minters ↔ other ∈ right.minters := by
  rw [Std.ExtTreeMap.mem_iff_isSome_getElem?, Std.ExtTreeMap.mem_iff_isSome_getElem?,
    equal.record apart]

theorem requireMinter : left.requireMinter other = right.requireMinter other := by
  rw [Ledger.requireMinter, Ledger.requireMinter, activeMinter?, activeMinter?, equal.paused,
    equal.record apart, equal.isBlacklisted apart]

end EqualBut

theorem EqualBut.agreeOn (equal : left.EqualBut who right) {Party : Account → Prop}
    (outsider : ¬ Party who) : left.AgreeOn right Party where
  paused := equal.paused
  frozen _ party := equal.isBlacklisted fun same => outsider (same ▸ party)

end Ledger

/-- What is judged of a call depends on the entries of its caller and of the accounts that it names,
and on no others. -/
theorem Call.judge_of_equalBut {left right : Ledger} {who caller : Account} {call : Call}
    (equal : left.EqualBut who right) (unsigned : caller ≠ who) (unnamed : who ∉ call.parties) :
    call.judge left caller = call.judge right caller := by
  cases call with
  | blacklist account | unblacklist account =>
    have apart : account ≠ who := (List.ne_of_not_mem_cons unnamed).symm
    simp only [judge, equal.requireSeat, equal.isBlacklisted apart]
  | removeController controller =>
    have apart : controller ≠ who := (List.ne_of_not_mem_cons unnamed).symm
    simp only [judge, equal.requireSeat, equal.requireController apart]
  | removeMinter minter =>
    have apart : minter ≠ who := (List.ne_of_not_mem_cons unnamed).symm
    simp only [judge, equal.requireControl unsigned, equal.mem_minters_iff apart]
  | mint recipient amount =>
    have apart : recipient ≠ who := (List.ne_of_not_mem_cons unnamed).symm
    simp only [judge, equal.requireMinter unsigned, equal.isBlacklisted apart, equal.bank]
  | burn amount => simp only [judge, equal.requireMinter unsigned, equal.bank]
  | configureMinter minter allowance =>
    simp only [judge, equal.requireControl unsigned, equal.paused]
  | _ => simp only [judge, equal.requireSeat, equal.roles]

namespace Command

variable {who : Account} {command : Command}

/-- Nobody can tell by a command that avoids an account what the entries of the account are. -/
theorem Avoids.overlooks (avoids : command.Avoids who) :
    command.Overlooks (Ledger.EqualBut who) := by
  rintro ⟨left, fees⟩ ⟨right, _⟩ alike
  obtain rfl : fees = _ := alike.feeDenomination
  have equal : left.EqualBut who right := alike.ledger
  -- Calls are made by themselves or in a transaction, and transactions are screened with or without
  -- being carried out.
  have dispatched : ∀ origin call, origin ≠ .signed who → who ∉ call.parties →
      (left.dispatch origin call).Alike (Ledger.EqualBut who) (right.dispatch origin call) := by
    intro origin call unsigned unnamed
    refine Ledger.dispatch_alike equal ?_ fun _ event _ _ => equal.apply event
    rintro caller rfl
    exact Call.judge_of_equalBut equal (unsigned ∘ congrArg Origin.signed) unnamed
  have validated : ∀ (origin : Origin) (intents : List (Intent Account Denomination)),
      origin ≠ .signed who → (∀ intent ∈ intents, who ∉ intent.parties) →
      left.validate fees origin intents = right.validate fees origin intents := by
    intro origin intents unsigned unnamed
    exact Ledger.validate_of_agreeOn (equal.agreeOn unsigned)
      (fun intent member => equal.agreeOn (unnamed intent member)) fees
  cases command with
  | dispatch origin call =>
    obtain ⟨unsigned, unnamed⟩ := avoids
    exact Chain.settled_alike alike (dispatched origin call unsigned unnamed) .done
  | submit origin payload intents =>
    obtain ⟨unsigned, unnamed, others⟩ := avoids
    have screened := validated origin intents unsigned others
    refine Chain.settled_alike alike (Ledger.submit_alike equal screened ?_) .submitted
    cases payload with
    | call call => exact dispatched origin call unsigned unnamed
    | remark => exact ⟨rfl, rfl, rfl, equal⟩
  | validate origin intents =>
    obtain ⟨unsigned, unnamed⟩ := avoids
    simp only [Chain.step, validated origin intents unsigned unnamed]
    exact Chain.observed_alike alike _ _
  | check hook =>
    simp only [Chain.step, Ledger.checkHook_congr (equal.agreeOn avoids)]
    exact Chain.observed_alike alike _ _
  | checkIntent intent =>
    simp only [Chain.step, Ledger.checkIntent_congr (equal.agreeOn avoids)]
    exact Chain.observed_alike alike _ _
  | receive packet answer =>
    have agree : left.AgreeOn right packet.Spells := equal.agreeOn avoids
    simp only [Chain.step, Ledger.receivePacket_congr _ _ agree]
    exact Chain.observed_alike alike _ _
  | send caller packet taken =>
    have concerned : ¬ (caller = who ∨ packet.Spells who) := not_or.mpr avoids
    have agree : left.AgreeOn right fun other => caller = other ∨ packet.Spells other :=
      equal.agreeOn concerned
    simp only [Chain.step, Ledger.sendPacket_congr _ _ _ agree]
    exact Chain.observed_alike alike _ _
  | setFeeDenomination denomination => exact ⟨rfl, rfl, rfl, rfl, equal⟩
  | query _ | vacate _ | writeMinter _ _ => exact avoids.elim

theorem Avoids.regular (avoids : command.Avoids who) : command.Regular := by
  cases command with
  | vacate | writeMinter => exact avoids.elim
  | _ => trivial

theorem Avoids.signer?_ne (avoids : command.Avoids who) : command.signer? ≠ some who := by
  intro signed
  cases command with
  | dispatch origin call | submit origin payload intents =>
    cases origin with
    | signed signer => exact avoids.1 (congrArg Origin.signed (Option.some.inj signed))
    | root | unsigned => contradiction
  | _ => contradiction

theorem Avoids.not_mem_parties {call : Call} (avoids : command.Avoids who)
    (calls : command.call? = some call) : who ∉ call.parties := by
  cases command with
  | dispatch origin asked =>
    obtain rfl := Option.some.inj calls
    exact avoids.2
  | submit origin payload intents =>
    cases payload with
    | call asked =>
      obtain rfl := Option.some.inj calls
      exact avoids.2.1
    | remark => contradiction
  | _ => contradiction

end Command

namespace Chain

variable {who : Account} {commands : List Command}

theorem entriesOf_step (chain : Chain) {command : Command} (avoids : command.Avoids who) :
    (chain.step command).chain.ledger.entriesOf who = chain.ledger.entriesOf who := by
  obtain ⟨signer, event, advances⟩ | rests := chain.step_cases avoids.regular
  · have unsigned : signer ≠ who := by
      rintro rfl
      exact avoids.signer?_ne advances.signed
    have unnamed := avoids.not_mem_parties advances.called
    rw [advances.ledger, Ledger.entriesOf_apply,
      advances.permitted.updateEntries_of_aside unsigned unnamed]
  · rw [rests.ledger]

theorem entriesOf_after (chain : Chain) (aside : ∀ command ∈ commands, command.Avoids who) :
    (chain.after commands).ledger.entriesOf who = chain.ledger.entriesOf who := by
  induction commands generalizing chain with
  | nil => rfl
  | cons command rest ih =>
    have others : ∀ other ∈ rest, other.Avoids who :=
      fun other member => aside other (List.mem_cons_of_mem _ member)
    exact (ih _ others).trans (chain.entriesOf_step (aside command List.mem_cons_self))

/-- Commands that do not concern an account cannot tell chains apart that differ only in its
entries. -/
theorem account_isolated (who : Account) (left right : Chain)
    (alike : left.Alike (Ledger.EqualBut who) right)
    (aside : ∀ command ∈ commands, command.Avoids who) :
    List.Forall₂ (Step.Alike (Ledger.EqualBut who)) (left.run commands) (right.run commands) ∧
      (left.after commands).Alike (Ledger.EqualBut who) (right.after commands) ∧
      (left.after commands).ledger.entriesOf who = left.ledger.entriesOf who ∧
      (right.after commands).ledger.entriesOf who = right.ledger.entriesOf who := by
  have overlooked : ∀ command ∈ commands, command.Overlooks (Ledger.EqualBut who) :=
    fun command member => (aside command member).overlooks
  exact ⟨run_alike overlooked alike, after_alike overlooked alike, left.entriesOf_after aside,
    right.entriesOf_after aside⟩

open SampleHost in
/-- Nothing that others do on the sample host shows what its entries for bob are. -/
theorem account_isolated_of_bob :
    let inbound : Packet := ⟨controlled, 5, Codec.word64.encode charlie, Codec.word64.encode alice⟩
    let outbound : Packet := ⟨controlled, 5, Codec.word64.encode alice, [7]⟩
    let commands : List Command :=
      [.dispatch (.signed minter) (.mint alice 30),
        .submit (.signed controller) (.call (.configureMinter minter 70))
          [.grant controller alice controlled],
        .receive inbound (.success [1]), .send charlie outbound true,
        .dispatch (.signed blacklister) (.blacklist charlie),
        .check (.receive charlie alice controlled 5), .checkIntent (.send alice charlie controlled 5),
        .validate (.signed charlie) [], .dispatch (.signed minter) (.mint alice 80)]
    let changed : Chain :=
      ⟨{ firstLedger with
          blacklist := firstLedger.blacklist.insert bob
          controllers := firstLedger.controllers.insert bob minter
          minters := firstLedger.minters.insert bob ⟨7, true⟩ }, otherDenomination⟩
    firstChain.Alike (Ledger.EqualBut bob) changed ∧ (∀ command ∈ commands, command.Avoids bob) ∧
      List.Forall₂ (Step.Alike (Ledger.EqualBut bob)) (firstChain.run commands)
        (changed.run commands) ∧
      (firstChain.after commands).ledger.entriesOf bob = ⟨false, none, none⟩ ∧
      (changed.after commands).ledger.entriesOf bob = ⟨true, some ⟨7, true⟩, some minter⟩ ∧
      (changed.after commands).ledger.bank.balanceOf alice = 1030 := by
  intro inbound outbound commands changed
  have alike : firstChain.Alike (Ledger.EqualBut bob) changed := by
    refine ⟨rfl, rfl, rfl, rfl, fun other apart => ?_⟩
    simp only [changed, Ledger.entriesOf, Ledger.isBlacklisted, AccountEntries.mk.injEq]
    grind [firstChain]
  have aside : ∀ command ∈ commands, command.Avoids bob := by
    simp only [commands, inbound, outbound, List.forall_mem_cons, List.not_mem_nil,
      false_imp_iff, implies_true, Command.Avoids]
    decide +kernel
  obtain ⟨alikeSteps, _, kept, alsoKept⟩ := account_isolated bob firstChain changed alike aside
  have nothing : firstLedger.entriesOf bob = ⟨false, none, none⟩ := by decide +kernel
  have entries : changed.ledger.entriesOf bob = ⟨true, some ⟨7, true⟩, some minter⟩ := by
    decide +kernel
  exact ⟨alike, aside, alikeSteps, kept.trans nothing, alsoKept.trans entries, by decide +kernel⟩

end Chain

end Stablecoin
