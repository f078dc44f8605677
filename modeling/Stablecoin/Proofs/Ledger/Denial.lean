import Stablecoin.Packet.Relay
import Stablecoin.Proofs.Gate.Denial
import Stablecoin.Transaction

/-! # What a ledger denies

One denial stands behind the verdicts of all who screen movements: hooks, intents, packets and the
admission of transactions answer with the denial that the standard gate has for the ledger, each in
its own words. Only movements of the controlled denomination meet one. A packet that is refused
never reaches the application behind the relay.
-/

namespace Stablecoin

namespace Audited

variable {ε ε' α : Type}

theorem verdict_mapError (audited : Audited ε α) (view : ε → ε') :
    (audited.mapError view).verdict = audited.verdict.mapError view := rfl

/-- A line more or less does not change a verdict. -/
theorem verdict_onRefusal (audited : Audited ε α) (line : LogLine) :
    (audited.onRefusal line).verdict = audited.verdict := by
  unfold Audited.onRefusal
  split <;> rfl

end Audited

/-- What an intent would move, and of which denomination. -/
def Intent.move {α δ : Type} (intent : Intent α δ) : δ × Movement α :=
  (intent.denomination, intent.movement)

/-- All that a signed transaction moves, in the order in which it is screened: what its intents
would move, and then the fee. -/
def transactionMoves (feeDenomination : Denomination) (payer : Account)
    (intents : List (Intent Account Denomination)) : List (Denomination × Movement Account) :=
  intents.map Intent.move ++ [(feeDenomination, .fee payer)]

/-- The intents that an inspector finds in a transaction: it asks what the signer would move, so in
a transaction that nobody signed there are none. -/
def Origin.intents (inspect : Account → List (Intent Account Denomination)) :
    Origin → List (Intent Account Denomination)
  | .signed who => inspect who
  | .root | .unsigned => []

namespace Packet

variable {packet : Packet} {who : Account}

theorem mem_parties_inboundMovement {receiver : Account} :
    who ∈ (packet.inboundMovement receiver).parties ↔
      Account.ofBytes? packet.sender = some who ∨ receiver = who := by
  simp [Movement.parties, inboundMovement, eq_comm]

theorem mem_parties_outboundMovement {caller sender : Account} :
    who ∈ (packet.outboundMovement caller sender).parties ↔
      caller = who ∨ sender = who ∨ Account.ofBytes? packet.receiver = some who := by
  simp only [Movement.parties, outboundMovement, List.mem_append, Option.mem_toList]
  split
  · next same => simp [same, eq_comm]
  · simp [or_assoc, eq_comm]

end Packet

namespace Ledger

variable (ledger : Ledger)

/-- The denial that a movement of a denomination meets, if any. -/
def denial? (denomination : Denomination) (movement : Movement Account) :
    Option (Denial Account) :=
  if denomination = controlled then movement.denial? ledger.gateView else none

/-- The first denial that any of some movements meets. -/
def firstDenial? (moves : List (Denomination × Movement Account)) : Option (Denial Account) :=
  moves.findSome? fun move => ledger.denial? move.1 move.2

/-! ## Verdicts -/

theorem verdict_evaluate (movement : Movement Account) :
    (ledger.evaluate movement).verdict = verdictOf (movement.denial? ledger.gateView) := by
  unfold evaluate
  rw [Guard.check_standard]
  cases movement.denial? ledger.gateView <;> rfl

theorem verdict_screen (denomination : Denomination) (movement : Movement Account) :
    (ledger.screen denomination movement).verdict =
      verdictOf (ledger.denial? denomination movement) := by
  unfold screen denial?
  split
  · exact ledger.verdict_evaluate movement
  · rfl

theorem verdict_checkIntent (intent : Intent Account Denomination) :
    (ledger.checkIntent intent).verdict =
      verdictOf (ledger.denial? intent.denomination intent.movement) :=
  ledger.verdict_screen _ _

/-- Every hook screens what it is named for, whether or not it goes by way of an intent. -/
theorem checkHook_eq_enforce (hook : Hook) :
    ledger.checkHook hook = ledger.enforce hook.denomination hook.movement := by
  cases hook <;> rfl

theorem verdict_checkHook (hook : Hook) :
    (ledger.checkHook hook).verdict =
      verdictOf ((ledger.denial? hook.denomination hook.movement).map Denial.refusal) := by
  rw [checkHook_eq_enforce, enforce, Audited.verdict_mapError, verdict_screen, mapError_verdictOf]

theorem verdict_screenIntents (intents : List (Intent Account Denomination)) :
    (ledger.screenIntents intents).verdict =
      verdictOf ((ledger.firstDenial? (intents.map Intent.move)).map Denial.invalidity) := by
  induction intents with
  | nil => rfl
  | cons intent rest ih =>
    rw [screenIntents, Audited.verdict_bind, Audited.verdict_mapError, verdict_checkIntent,
      mapError_verdictOf, ih, verdictOf_bind, List.map_cons, firstDenial?, firstDenial?,
      List.findSome?_cons, Intent.move]
    cases ledger.denial? intent.denomination intent.movement <;> rfl

theorem verdict_screenFee (feeDenomination : Denomination) (payer : Account) :
    (ledger.screenFee feeDenomination payer).verdict =
      verdictOf ((ledger.denial? feeDenomination (.fee payer)).map Denial.invalidity) := by
  rw [screenFee, Audited.verdict_mapError, Audited.verdict_onRefusal, verdict_screen,
    mapError_verdictOf]

/-- A signed transaction meets the first denial among all that it moves. -/
theorem verdict_validate_signed (feeDenomination : Denomination) (who : Account)
    (intents : List (Intent Account Denomination)) :
    (ledger.validate feeDenomination (.signed who) intents).verdict =
      verdictOf ((ledger.firstDenial? (transactionMoves feeDenomination who intents)).map
        Denial.invalidity) := by
  rw [validate, Audited.verdict_bind, verdict_screenIntents, verdict_screenFee, verdictOf_bind,
    transactionMoves, firstDenial?, firstDenial?, List.findSome?_append, List.findSome?_singleton]
  cases List.findSome? _ (intents.map Intent.move) <;> rfl

/-- Why an inbound packet is refused, if it is. -/
def inboundFault? (packet : Packet) : Option PacketFault :=
  if packet.denomination = controlled then
    match Account.ofBytes? packet.receiver with
    | none => some .malformedReceiver
    | some receiver => ((packet.inboundMovement receiver).denial? ledger.gateView).map .denied
  else none

theorem verdict_screenInbound (packet : Packet) :
    (ledger.screenInbound packet).verdict = verdictOf (ledger.inboundFault? packet) := by
  unfold screenInbound inboundFault?
  split
  · cases Account.ofBytes? packet.receiver with
    | none => rfl
    | some receiver =>
      dsimp only
      rw [Audited.verdict_mapError, verdict_evaluate, mapError_verdictOf]
  · rfl

/-- Why an outbound packet is refused, if it is. -/
def outboundRefusal? (caller : Account) (packet : Packet) : Option Refusal :=
  if packet.denomination = controlled then
    match Account.ofBytes? packet.sender with
    | none => some .invalidAddress
    | some sender =>
        ((packet.outboundMovement caller sender).denial? ledger.gateView).map Denial.refusal
  else none

theorem verdict_screenOutbound (caller : Account) (packet : Packet) :
    (ledger.screenOutbound caller packet).verdict =
      verdictOf (ledger.outboundRefusal? caller packet) := by
  unfold screenOutbound outboundRefusal?
  split
  · cases Account.ofBytes? packet.sender with
    | none => rfl
    | some sender =>
      dsimp only
      rw [Audited.verdict_mapError, verdict_evaluate, mapError_verdictOf]
  · rfl

/-! ## Packets that go no further -/

/-- An inbound packet is answered with a refusal, whatever application is behind the relay, and the
application is left as it was. -/
def TurnsAway (packet : Packet) : Prop :=
  ∃ fault log, ∀ (σ ε : Type) (app : TransferApp σ ε) (state : σ),
    ledger.receivePacket app state packet = ⟨.refusal (PacketFault.reason fault), state, log⟩

/-- An outbound packet of a caller is refused, whatever application is behind the relay, and the
application is left as it was. -/
def HoldsBack (caller : Account) (packet : Packet) : Prop :=
  ∃ refusal log, ∀ (σ ε : Type) (ofRefusal : Refusal → ε) (app : TransferApp σ ε) (state : σ),
    ledger.sendPacket ofRefusal app state caller packet = ⟨.error (ofRefusal refusal), state, log⟩

variable {ledger}

section Relay

variable {σ ε : Type} (ofRefusal : Refusal → ε) (app : TransferApp σ ε) (state : σ)
  {caller : Account} {packet : Packet}

theorem receivePacket_of_fault {fault : PacketFault}
    (found : ledger.inboundFault? packet = some fault) :
    ledger.receivePacket app state packet =
      ⟨.refusal fault.reason, state, (ledger.screenInbound packet).log⟩ := by
  simp only [receivePacket, verdict_screenInbound, found, verdictOf]

theorem receivePacket_of_clear (clear : ledger.inboundFault? packet = none) :
    ledger.receivePacket app state packet =
      ⟨(app.receive state packet).1, (app.receive state packet).2,
        (ledger.screenInbound packet).log⟩ := by
  simp only [receivePacket, verdict_screenInbound, clear, verdictOf]

theorem sendPacket_of_refusal {refusal : Refusal}
    (found : ledger.outboundRefusal? caller packet = some refusal) :
    ledger.sendPacket ofRefusal app state caller packet =
      ⟨.error (ofRefusal refusal), state, (ledger.screenOutbound caller packet).log⟩ := by
  simp only [sendPacket, verdict_screenOutbound, found, verdictOf]

theorem sendPacket_of_clear (clear : ledger.outboundRefusal? caller packet = none) :
    ledger.sendPacket ofRefusal app state caller packet =
      ⟨(app.send state caller packet).1, (app.send state caller packet).2,
        (ledger.screenOutbound caller packet).log⟩ := by
  simp only [sendPacket, verdict_screenOutbound, clear, verdictOf]

end Relay

theorem turnsAway_of_fault {packet : Packet} {fault : PacketFault}
    (found : ledger.inboundFault? packet = some fault) : ledger.TurnsAway packet :=
  ⟨fault, _, fun _ _ app state => receivePacket_of_fault app state found⟩

theorem holdsBack_of_refusal {caller : Account} {packet : Packet} {refusal : Refusal}
    (found : ledger.outboundRefusal? caller packet = some refusal) :
    ledger.HoldsBack caller packet :=
  ⟨refusal, _, fun _ _ ofRefusal app state => sendPacket_of_refusal ofRefusal app state found⟩

/-- A packet is turned away when it spells no receiver or the movement to its receiver is denied. -/
theorem turnsAway_of_denied {packet : Packet} (inControl : packet.denomination = controlled)
    (denied : ∀ receiver, Account.ofBytes? packet.receiver = some receiver →
      ∃ denial, (packet.inboundMovement receiver).denial? ledger.gateView = some denial) :
    ledger.TurnsAway packet := by
  cases spelled : Account.ofBytes? packet.receiver with
  | none =>
    have fault : ledger.inboundFault? packet = some .malformedReceiver := by
      rw [inboundFault?, if_pos inControl, spelled]
    exact turnsAway_of_fault fault
  | some receiver =>
    obtain ⟨denial, found⟩ := denied receiver spelled
    have fault : ledger.inboundFault? packet = some (.denied denial) := by
      simp only [inboundFault?, if_pos inControl, spelled, found, Option.map_some]
    exact turnsAway_of_fault fault

theorem holdsBack_of_denied {caller : Account} {packet : Packet}
    (inControl : packet.denomination = controlled)
    (denied : ∀ sender, Account.ofBytes? packet.sender = some sender →
      ∃ denial, (packet.outboundMovement caller sender).denial? ledger.gateView = some denial) :
    ledger.HoldsBack caller packet := by
  cases spelled : Account.ofBytes? packet.sender with
  | none =>
    have refused : ledger.outboundRefusal? caller packet = some .invalidAddress := by
      rw [outboundRefusal?, if_pos inControl, spelled]
    exact holdsBack_of_refusal refused
  | some sender =>
    obtain ⟨denial, found⟩ := denied sender spelled
    have refused : ledger.outboundRefusal? caller packet = some denial.refusal := by
      simp only [outboundRefusal?, if_pos inControl, spelled, found, Option.map_some]
    exact holdsBack_of_refusal refused

/-! ## Denials of the controlled denomination -/

theorem denial?_of_controlled {denomination : Denomination} (inControl : denomination = controlled)
    (movement : Movement Account) :
    ledger.denial? denomination movement = movement.denial? ledger.gateView := if_pos inControl

/-- When one of some movements is denied, there is a first one that is. -/
theorem exists_firstDenial? {moves : List (Denomination × Movement Account)}
    {move : Denomination × Movement Account} {denial : Denial Account} (member : move ∈ moves)
    (denied : ledger.denial? move.1 move.2 = some denial) :
    ∃ first, ledger.firstDenial? moves = some first := by
  rw [← Option.isSome_iff_exists, firstDenial?, List.findSome?_isSome_iff]
  exact ⟨move, member, by rw [denied]; rfl⟩

end Ledger

end Stablecoin
