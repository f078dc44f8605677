import Stablecoin.Proofs.Chain.Success
import Stablecoin.Proofs.Ledger.Denial
import Stablecoin.Proofs.Ledger.Records
import Stablecoin.Proofs.Minting.Obstacle
import Stablecoin.SampleHost

/-! # The pause as a standstill

While a ledger is paused nothing of value happens to it: the calls that create or destroy tokens or
admit minters are refused, and so is every movement of the controlled denomination, by whichever
way it is asked for. Only an unpause that succeeds ends this; administration goes on in between,
and may take records away.
-/

namespace Stablecoin

namespace Call

/-- The calls that create or destroy tokens. -/
def changesSupply : Call → Bool
  | .mint _ _ | .burn _ => true
  | _ => false

/-- The calls that a paused ledger refuses. -/
def needsRunning : Call → Bool
  | .mint _ _ | .burn _ | .configureMinter _ _ => true
  | _ => false

end Call

namespace Ledger

variable {ledger start current : Ledger} {caller : Account} {event : Event}

/-- What needs a running ledger is permitted by no other. -/
theorem Permits.running (permitted : ledger.Permits caller event)
    (needs : event.call.needsRunning) : ledger.paused = false := by
  cases event with
  | minterConfigured => exact permitted.2.2
  | minted =>
    obtain ⟨_, _, ⟨_, power, _⟩, _⟩ := permitted
    exact power.running
  | burned =>
    obtain ⟨_, ⟨_, power⟩, _⟩ := permitted
    exact power.running
  | _ => contradiction

/-! ## What a pause keeps -/

/-- Since `start` the ledger has been paused, the bank was left alone and no record was written;
some records may be gone. -/
structure Standstill (start current : Ledger) : Prop where
  paused : current.paused = true
  bank : current.bank = start.bank
  records : ∀ (minter : Account) (record : MinterRecord),
    current.minters[minter]? = some record → start.minters[minter]? = some record

namespace Standstill

theorem refl (paused : ledger.paused = true) : ledger.Standstill ledger :=
  ⟨paused, rfl, fun _ _ found => found⟩

/-- Nothing but an unpause ends a standstill. -/
theorem apply (still : start.Standstill current) (permitted : current.Permits caller event)
    (kept : event.call ≠ .unpause) : start.Standstill (current.apply event) := by
  -- The events that touch the bank or write a record are those that a pause does not permit.
  have idle : ¬ event.call.needsRunning := by
    intro needs
    have running := permitted.running needs
    rw [still.paused] at running
    contradiction
  cases event with
  | unpaused => exact absurd rfl kept
  | minterConfigured | minted | burned => exact absurd rfl idle
  | paused => exact ⟨rfl, still.bank, still.records⟩
  | minterRemoved controller removed =>
    refine ⟨still.paused, still.bank, fun minter record found => still.records minter record ?_⟩
    rw [getElem?_minters_apply, Event.updateRecord] at found
    split at found
    · contradiction
    · exact found
  | _ => exact ⟨still.paused, still.bank, still.records⟩

end Standstill

/-! ## What a pause refuses -/

section Paused

variable (paused : ledger.paused = true)

include paused

theorem denial?_of_paused {denomination : Denomination} (inControl : denomination = controlled)
    (movement : Movement Account) : ledger.denial? denomination movement = some .paused := by
  rw [denial?_of_controlled inControl]
  exact Movement.denial?_of_paused paused

theorem eq_paused_of_denial? {denomination : Denomination} {movement : Movement Account}
    {denial : Denial Account} (denied : ledger.denial? denomination movement = some denial) :
    denial = .paused := by
  unfold denial? at denied
  split at denied
  · rw [Movement.denial?_of_paused paused] at denied
    exact (Option.some.inj denied).symm
  · contradiction

theorem eq_paused_of_firstDenial? {moves : List (Denomination × Movement Account)}
    {denial : Denial Account} (denied : ledger.firstDenial? moves = some denial) :
    denial = .paused := by
  obtain ⟨move, _, denied⟩ := List.exists_of_findSome?_eq_some denied
  exact eq_paused_of_denial? paused denied

theorem firstDenial?_of_paused {moves : List (Denomination × Movement Account)}
    {move : Denomination × Movement Account} (member : move ∈ moves)
    (inControl : move.1 = controlled) : ledger.firstDenial? moves = some .paused := by
  obtain ⟨first, found⟩ := exists_firstDenial? member (denial?_of_paused paused inControl move.2)
  rw [found, eq_paused_of_firstDenial? paused found]

theorem dispatch_changesSupply_of_paused (who : Account) {call : Call}
    (changes : call.changesSupply) :
    ledger.dispatch (.signed who) call = ⟨.error (.refused .mintingPaused), [], [], ledger⟩ := by
  apply dispatch_of_judge_error
  cases call with
  | mint => exact Call.judge_mint_eq_error_iff.mpr (.minter (.pause paused))
  | burn => exact Call.judge_burn_eq_error_iff.mpr (.minter (.pause paused))
  | _ => contradiction

end Paused

/-- Every way to move value is shut: nothing is created or destroyed, and whatever would move meets
the pause. -/
structure Shut (ledger : Ledger) : Prop where
  supply : ∀ (who : Account) (call : Call), call.changesSupply →
    ledger.dispatch (.signed who) call = ⟨.error (.refused .mintingPaused), [], [], ledger⟩
  submitted : ∀ (feeDenomination : Denomination) (who : Account) (call : Call)
    (intents : List (Intent Account Denomination)), call.changesSupply →
    let submitted := ledger.submit feeDenomination (.signed who) (.call call) intents
    submitted.reply = .error .paused ∨ submitted.reply = .ok (.error (.refused .mintingPaused))
  hooks : ∀ hook : Hook, hook.denomination = controlled →
    (ledger.checkHook hook).verdict = .error .paused
  intents : ∀ intent : Intent Account Denomination, intent.denomination = controlled →
    (ledger.checkIntent intent).verdict = .error .paused
  inbound : ∀ packet : Packet, packet.denomination = controlled → ledger.TurnsAway packet
  outbound : ∀ (caller : Account) (packet : Packet), packet.denomination = controlled →
    ledger.HoldsBack caller packet
  transactions : ∀ (feeDenomination : Denomination) (who : Account)
    (intents : List (Intent Account Denomination)),
    (∃ intent ∈ intents, intent.denomination = controlled) ∨ feeDenomination = controlled →
    (ledger.validate feeDenomination (.signed who) intents).verdict = .error .paused

/-- A paused ledger shuts every way to move value, whoever asks and whoever is frozen. -/
theorem shut_of_paused (paused : ledger.paused = true) : ledger.Shut where
  supply who call changes := dispatch_changesSupply_of_paused paused who changes
  submitted feeDenomination who call intents changes := by
    intro submitted
    -- Either screening stops the transaction, or the call is dispatched and stops by itself.
    have screened := ledger.verdict_validate_signed feeDenomination who intents
    cases denied : ledger.firstDenial? (transactionMoves feeDenomination who intents) with
    | some denial =>
      left
      rw [denied, eq_paused_of_firstDenial? paused denied] at screened
      simp only [submitted, submit, screened, Option.map, verdictOf, Denial.invalidity]
    | none =>
      right
      rw [denied] at screened
      simp only [submitted, submit, screened, Option.map, verdictOf, carryOutPayload,
        dispatch_changesSupply_of_paused paused who changes]
  hooks hook inControl := by
    rw [verdict_checkHook, denial?_of_paused paused inControl]
    rfl
  intents intent inControl := by
    rw [verdict_checkIntent, denial?_of_paused paused inControl]
    rfl
  inbound _ inControl :=
    turnsAway_of_denied inControl fun _ _ => ⟨_, Movement.denial?_of_paused paused⟩
  outbound _ _ inControl :=
    holdsBack_of_denied inControl fun _ _ => ⟨_, Movement.denial?_of_paused paused⟩
  transactions feeDenomination who intents touched := by
    rw [verdict_validate_signed]
    obtain ⟨intent, member, inControl⟩ | inControl := touched
    · have moved : intent.move ∈ transactionMoves feeDenomination who intents :=
        List.mem_append_left _ (List.mem_map_of_mem member)
      rw [firstDenial?_of_paused paused moved inControl]
      rfl
    · have paid : (feeDenomination, .fee who) ∈ transactionMoves feeDenomination who intents :=
        List.mem_append_right _ (List.mem_singleton.mpr rfl)
      rw [firstDenial?_of_paused paused paid inControl]
      rfl

end Ledger

namespace Chain

/-- Nothing that a paused ledger refuses is carried out on it, however it is asked for. -/
theorem not_carriesOut_of_paused {chain : Chain} {command : Command} {call : Call}
    (paused : chain.ledger.paused = true) (calls : command.call? = some call)
    (needs : call.needsRunning) : ¬ chain.CarriesOut command := by
  intro carries
  obtain ⟨signer, event, rfl, advances⟩ := carries.advances calls
  have running := advances.permitted.running needs
  rw [paused] at running
  contradiction

/-- Until an unpause succeeds, balances and issuance stay, no minter record is added or changed, and
nothing moves. -/
theorem standstill_until_unpaused (chain : Chain) {commands : List Command}
    (regular : ∀ command ∈ commands, command.Regular) (paused : chain.ledger.paused = true)
    (kept : .unpause ∉ chain.achieved commands) {past : List Command} (within : past <+: commands) :
    let reached := chain.after past
    chain.ledger.Standstill reached.ledger ∧ reached.ledger.Shut ∧
    Invalidity.paused.code? = some 1 ∧
    ∀ (command : Command) (call : Call), command.call? = some call → call.needsRunning →
      ¬ reached.CarriesOut command := by
  intro reached
  have others : ∀ call ∈ chain.achieved commands, call ≠ .unpause :=
    fun call achieved same => kept (same ▸ achieved)
  have still : chain.ledger.Standstill reached.ledger := by
    refine preserves_of_allowed ?_ regular others (.refl paused) within
    intro current caller event permitted other still
    exact still.apply permitted other
  refine ⟨still, Ledger.shut_of_paused still.paused, rfl, ?_⟩
  intro command call calls needs
  exact not_carriesOut_of_paused still.paused calls needs

open SampleHost in
/-- On the paused sample host a record is removed, while a transaction, a packet and a transfer are
stopped. -/
theorem standstill_until_unpaused_of_sample :
    let paused : Chain := ⟨{ firstLedger with paused := true }, controlled⟩
    let packet : Packet := ⟨controlled, 7, Codec.word64.encode bob, []⟩
    let commands : List Command :=
      [.dispatch (.signed minter) (.mint bob 1),
        .dispatch (.signed controller) (.removeMinter minter),
        .submit (.signed pauser) (.call .unpause) [], .send bob packet true,
        .dispatch (.signed alice) .unpause]
    let reached := (paused.after commands).ledger
    paused.achieved commands = [.removeMinter minter] ∧ reached.bank = firstLedger.bank ∧
      reached.minters[minter]? = none ∧ reached.HoldsBack bob packet ∧
      (reached.validate otherDenomination (.signed alice) [.send alice bob controlled 1]).verdict =
        .error .paused := by
  intro paused packet commands reached
  have achieved : paused.achieved commands = [.removeMinter minter] := by decide +kernel
  have kept : Call.unpause ∉ paused.achieved commands := by
    rw [achieved]
    decide
  obtain ⟨still, shut, _⟩ :=
    standstill_until_unpaused paused (by decide) rfl kept (List.prefix_refl commands)
  have refused := shut.transactions otherDenomination alice [.send alice bob controlled 1]
    (.inl ⟨_, List.mem_singleton.mpr rfl, rfl⟩)
  exact ⟨achieved, still.bank, by decide +kernel, shut.outbound bob packet rfl, refused⟩

end Chain

end Stablecoin
