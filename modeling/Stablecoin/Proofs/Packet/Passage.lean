import Stablecoin.Proofs.Ledger.Mediation
import Stablecoin.Proofs.Wire.RoundTrip

/-! # Which packets pass a relay

A relay asks the application behind it once about a packet that passes and hands its answer on as it
is, and it asks nothing about a packet that it refuses. A packet of the controlled denomination
passes when its local party is an account, nothing is paused and no account that it concerns is
frozen; the refusals come in this order. Where the address of the remote party spells an account as
well, a relay and the hook for the same transfer decide alike.
-/

namespace Stablecoin

namespace TransferApp

variable {σ ε : Type}

/-- What a relay asks of the application behind it. -/
inductive Request
  | receive (packet : Packet)
  | send (caller : Account) (packet : Packet)
deriving DecidableEq, Repr

/-- The same application, which also keeps a record of what it was asked, oldest first. -/
def recorded (app : TransferApp σ ε) : TransferApp (σ × List Request) ε where
  receive := fun (state, asked) packet =>
    let (ack, state) := app.receive state packet
    (ack, state, asked ++ [.receive packet])
  send := fun (state, asked) caller packet =>
    let (result, state) := app.send state caller packet
    (result, state, asked ++ [.send caller packet])

/-- Ask an application to send a packet if a verdict allows it. -/
def sendIf (ofRefusal : Refusal → ε) (app : TransferApp σ ε) (state : σ) (caller : Account)
    (packet : Packet) : Except Refusal Unit → Except ε Unit × σ
  | .ok () => app.send state caller packet
  | .error refusal => (.error (ofRefusal refusal), state)

end TransferApp

/-- Denials that the ledger tells apart no further have the same words. -/
theorem Denial.reason_eq_of_refusal {α : Type} {denial other : Denial α}
    (same : denial.refusal = other.refusal) : denial.reason = other.reason := by
  cases denial <;> cases other <;> simp_all only [refusal, reason, reduceCtorEq]

namespace Ledger

/-! ## What packets need -/

/-- Nothing stands in the way of an inbound packet. -/
def ClearsInbound (ledger : Ledger) (packet : Packet) : Prop :=
  packet.denomination ≠ controlled ∨
    ∃ receiver, Account.ofBytes? packet.receiver = some receiver ∧ ledger.paused = false ∧
      ledger.isBlacklisted receiver = false ∧
      ∀ sender, Account.ofBytes? packet.sender = some sender → ledger.isBlacklisted sender = false

/-- Nothing stands in the way of an outbound packet of a caller. -/
def ClearsOutbound (ledger : Ledger) (caller : Account) (packet : Packet) : Prop :=
  packet.denomination ≠ controlled ∨
    ∃ sender, Account.ofBytes? packet.sender = some sender ∧ ledger.paused = false ∧
      ledger.isBlacklisted caller = false ∧ ledger.isBlacklisted sender = false ∧
      ∀ receiver, Account.ofBytes? packet.receiver = some receiver →
        ledger.isBlacklisted receiver = false

/-- The first of the reasons, in words, that stand in the way of an inbound packet of the controlled
denomination. -/
inductive InboundObstacle (ledger : Ledger) (packet : Packet) : String → Prop
  | receiver : Account.ofBytes? packet.receiver = none →
      InboundObstacle ledger packet "invalid address"
  | pause {receiver : Account} : Account.ofBytes? packet.receiver = some receiver →
      ledger.paused = true → InboundObstacle ledger packet "the module is paused"
  | frozenSender {receiver sender : Account} :
      Account.ofBytes? packet.receiver = some receiver → ledger.paused = false →
      Account.ofBytes? packet.sender = some sender → ledger.isBlacklisted sender = true →
      InboundObstacle ledger packet "an address is blacklisted and can not send tokens"
  | frozenReceiver {receiver : Account} : Account.ofBytes? packet.receiver = some receiver →
      ledger.paused = false →
      (∀ sender, Account.ofBytes? packet.sender = some sender →
        ledger.isBlacklisted sender = false) → ledger.isBlacklisted receiver = true →
      InboundObstacle ledger packet "an address is blacklisted and can not receive tokens"

/-- The first of the refusals that stand in the way of an outbound packet of the controlled
denomination. -/
inductive OutboundObstacle (ledger : Ledger) (caller : Account) (packet : Packet) : Refusal → Prop
  | sender : Account.ofBytes? packet.sender = none →
      OutboundObstacle ledger caller packet .invalidAddress
  | pause {sender : Account} : Account.ofBytes? packet.sender = some sender →
      ledger.paused = true → OutboundObstacle ledger caller packet .paused
  | frozenSender {sender : Account} : Account.ofBytes? packet.sender = some sender →
      ledger.paused = false →
      ledger.isBlacklisted caller = true ∨ ledger.isBlacklisted sender = true →
      OutboundObstacle ledger caller packet .senderBlacklisted
  | frozenReceiver {sender receiver : Account} : Account.ofBytes? packet.sender = some sender →
      ledger.paused = false → ledger.isBlacklisted caller = false →
      ledger.isBlacklisted sender = false → Account.ofBytes? packet.receiver = some receiver →
      ledger.isBlacklisted receiver = true →
      OutboundObstacle ledger caller packet .receiverBlacklisted

variable {ledger : Ledger} {caller : Account} {packet : Packet}

/-! ## Inbound packets -/

theorem denial?_inboundMovement_eq_none_iff {receiver : Account} :
    (packet.inboundMovement receiver).denial? ledger.gateView = none ↔
      ledger.paused = false ∧ ledger.isBlacklisted receiver = false ∧
        ∀ sender, Account.ofBytes? packet.sender = some sender →
          ledger.isBlacklisted sender = false := by
  simp only [Movement.denial?_eq_none_iff, Packet.mem_parties_inboundMovement, or_imp, forall_and,
    forall_eq', gateView]
  rw [and_comm (a := ledger.isBlacklisted receiver = false)]

theorem inboundFault?_eq_none_iff :
    ledger.inboundFault? packet = none ↔ ledger.ClearsInbound packet := by
  unfold inboundFault? ClearsInbound
  split
  · next inControl =>
    rw [or_iff_right (not_not_intro inControl)]
    cases Account.ofBytes? packet.receiver with
    | none => simp only [reduceCtorEq, false_and, exists_false]
    | some receiver =>
      simp only [Option.map_eq_none_iff, denial?_inboundMovement_eq_none_iff, Option.some.injEq,
        exists_eq_left']
  · next foreign => exact iff_of_true rfl (.inl foreign)

instance : Decidable (ledger.ClearsInbound packet) :=
  decidable_of_iff _ inboundFault?_eq_none_iff

/-- The first obstacle is what an inbound packet is refused for. -/
theorem inboundObstacle_of_fault {fault : PacketFault}
    (found : ledger.inboundFault? packet = some fault) :
    ledger.InboundObstacle packet fault.reason := by
  unfold inboundFault? at found
  split at found
  · split at found
    · next spelled =>
      cases found
      exact .receiver spelled
    · next receiver spelled =>
      obtain ⟨denial, denied, rfl⟩ := Option.map_eq_some_iff.mp found
      cases denial with
      | paused => exact .pause spelled (Movement.denial?_eq_paused_iff.mp denied)
      | cannotSend who =>
        obtain ⟨running, sender, member, frozen⟩ :=
          Movement.exists_cannotSend_iff.mp ⟨who, denied⟩
        exact .frozenSender spelled running (Option.mem_toList.mp member) frozen
      | cannotReceive who =>
        obtain ⟨running, free, account, member, frozen⟩ :=
          Movement.exists_cannotReceive_iff.mp ⟨who, denied⟩
        cases List.mem_singleton.mp member
        exact .frozenReceiver spelled running
          (fun sender sent => free sender (Option.mem_toList.mpr sent)) frozen
  · contradiction

section Local

variable {sender receiver : Account} (sent : Account.ofBytes? packet.sender = some sender)
  (received : Account.ofBytes? packet.receiver = some receiver)
include sent received

/-- Between two local accounts a relay looks at the movement that the hook looks at. -/
theorem inboundFault?_of_local :
    ledger.inboundFault? packet =
      (ledger.denial? packet.denomination ⟨.crossChainReceive, [sender], [receiver]⟩).map
        .denied := by
  unfold inboundFault? denial?
  split
  · simp only [received, Packet.inboundMovement, sent, Option.toList_some]
  · rfl

theorem clearsInbound_iff_checkHook :
    ledger.ClearsInbound packet ↔
      (ledger.checkHook (.receive sender receiver packet.denomination packet.amount)).verdict =
        .ok () := by
  rw [← inboundFault?_eq_none_iff, inboundFault?_of_local sent received, verdict_checkHook,
    verdictOf_eq_ok_iff, Option.map_eq_none_iff, Option.map_eq_none_iff]
  rfl

/-- What the hook refuses, the relay refuses for the same reason. -/
theorem inboundFault?_of_checkHook {denial : Denial Account}
    (refused : (ledger.checkHook
      (.receive sender receiver packet.denomination packet.amount)).verdict =
        .error denial.refusal) :
    ∃ fault, ledger.inboundFault? packet = some fault ∧ fault.reason = denial.reason := by
  rw [checkHook_eq_error_iff] at refused
  obtain ⟨found, denied, same⟩ := Option.map_eq_some_iff.mp refused
  refine ⟨.denied found, ?_, Denial.reason_eq_of_refusal same⟩
  rw [inboundFault?_of_local sent received]
  exact congrArg (Option.map PacketFault.denied) denied

end Local

theorem receivePacket_recorded {σ ε : Type} (app : TransferApp σ ε) (state : σ)
    (asked : List TransferApp.Request) :
    ledger.receivePacket app.recorded (state, asked) packet =
      let relayed := ledger.receivePacket app state packet
      ⟨relayed.reply,
        (relayed.state,
          asked ++ if ledger.ClearsInbound packet then [.receive packet] else []),
        relayed.log⟩ := by
  cases found : ledger.inboundFault? packet with
  | none =>
    rw [receivePacket_of_clear _ _ found, receivePacket_of_clear _ _ found,
      if_pos (inboundFault?_eq_none_iff.mp found)]
    rfl
  | some fault =>
    have stopped : ¬ ledger.ClearsInbound packet := by
      rw [← inboundFault?_eq_none_iff, found]
      exact Option.some_ne_none fault
    rw [receivePacket_of_fault _ _ found, receivePacket_of_fault _ _ found, if_neg stopped,
      List.append_nil]

/-- An inbound packet is shown to the application once, or answered with the first obstacle in
words. -/
theorem inbound_passage {σ ε : Type} (ledger : Ledger) (packet : Packet) (app : TransferApp σ ε)
    (state : σ) :
    let relayed := ledger.receivePacket app state packet
    let traced := ledger.receivePacket app.recorded (state, []) packet
    let asked := traced.state.2
    (traced.reply, traced.state.1) = (relayed.reply, relayed.state) ∧
    (ledger.ClearsInbound packet →
      asked = [.receive packet] ∧ (relayed.reply, relayed.state) = app.receive state packet) ∧
    (¬ ledger.ClearsInbound packet →
      asked = [] ∧ relayed.state = state ∧ relayed.reply.isSuccess = false ∧
      ∃ reason, ledger.InboundObstacle packet reason ∧
        relayed.reply = .failure ("error handling packet: " ++ reason).toUTF8.data.toList) ∧
    ∀ sender receiver, Account.ofBytes? packet.sender = some sender →
      Account.ofBytes? packet.receiver = some receiver →
      let hook : Hook := .receive sender receiver packet.denomination packet.amount
      let verdict := (ledger.checkHook hook).verdict
      (asked = [.receive packet] ↔ verdict = .ok ()) ∧
      ∀ denial : Denial Account, verdict = .error denial.refusal →
        relayed.reply = .refusal denial.reason := by
  intro relayed traced asked
  have traced_eq : traced = _ := receivePacket_recorded app state []
  have asked_eq : asked = if ledger.ClearsInbound packet then [.receive packet] else [] :=
    congrArg (·.state.2) traced_eq
  refine ⟨congrArg (fun relayed => (relayed.reply, relayed.state.1)) traced_eq, ?_, ?_, ?_⟩
  · intro clear
    refine ⟨asked_eq.trans (if_pos clear), ?_⟩
    simp only [relayed, receivePacket_of_clear app state (inboundFault?_eq_none_iff.mpr clear)]
  · intro stopped
    obtain ⟨fault, found⟩ := Option.ne_none_iff_exists'.mp (mt inboundFault?_eq_none_iff.mp stopped)
    have refused : relayed = _ := receivePacket_of_fault app state found
    rw [refused]
    exact ⟨asked_eq.trans (if_neg stopped), rfl, rfl, fault.reason, inboundObstacle_of_fault found,
      rfl⟩
  · intro sender receiver sent received hook verdict
    constructor
    · rw [asked_eq, ← clearsInbound_iff_checkHook sent received]
      split
      · next clear => exact iff_of_true rfl clear
      · next stopped => exact iff_of_false (List.cons_ne_nil _ _).symm stopped
    · intro denial refused
      obtain ⟨fault, found, same⟩ := inboundFault?_of_checkHook sent received refused
      rw [← same]
      exact congrArg (·.reply) (receivePacket_of_fault app state found)

open SampleHost in
/-- With bob frozen, a packet from abroad reaches the application, and one from bob does not. -/
theorem inbound_passage_of_frozen_sender :
    let grudging : TransferApp Nat CallError :=
      ⟨fun seen _ => (.failure [255], seen + 1), fun seen _ _ => (.error .unavailable, seen + 1)⟩
    let frozen : Ledger := { firstLedger with blacklist := .ofList [bob] }
    let abroad : Packet := ⟨controlled, 5, [7], Codec.word64.encode alice⟩
    let domestic : Packet := { abroad with sender := Codec.word64.encode bob }
    let taken := frozen.receivePacket grudging 0 abroad
    let refused := frozen.receivePacket grudging 0 domestic
    (frozen.ClearsInbound abroad ∧ (taken.reply, taken.state) = (.failure [255], 1)) ∧
      (¬ frozen.ClearsInbound domestic ∧ refused.state = 0 ∧
        (frozen.receivePacket grudging.recorded (0, []) domestic).state.2 = []) ∧
      Account.ofBytes? domestic.sender = some bob ∧
      Account.ofBytes? domestic.receiver = some alice ∧
      (frozen.checkHook (.receive bob alice controlled 5)).verdict = .error .senderBlacklisted ∧
      refused.reply = .refusal "an address is blacklisted and can not send tokens" := by
  intro grudging frozen abroad domestic taken refused
  have clear : frozen.ClearsInbound abroad := by decide +kernel
  have stopped : ¬ frozen.ClearsInbound domestic := by decide +kernel
  have sent : Account.ofBytes? domestic.sender = some bob := Account.ofBytes?_encode bob
  have received : Account.ofBytes? domestic.receiver = some alice := Account.ofBytes?_encode alice
  have denied : (frozen.checkHook (.receive bob alice controlled 5)).verdict =
      .error .senderBlacklisted := rfl
  obtain ⟨_, passes, _, _⟩ := inbound_passage frozen abroad grudging 0
  obtain ⟨_, _, stops, agrees⟩ := inbound_passage frozen domestic grudging 0
  obtain ⟨unasked, kept, _, _⟩ := stops stopped
  exact ⟨⟨clear, (passes clear).2⟩, ⟨stopped, kept, unasked⟩, sent, received, denied,
    (agrees bob alice sent received).2 (.cannotSend bob) denied⟩

/-! ## Outbound packets -/

theorem denial?_outboundMovement_eq_none_iff {sender : Account} :
    (packet.outboundMovement caller sender).denial? ledger.gateView = none ↔
      ledger.paused = false ∧ ledger.isBlacklisted caller = false ∧
        ledger.isBlacklisted sender = false ∧
        ∀ receiver, Account.ofBytes? packet.receiver = some receiver →
          ledger.isBlacklisted receiver = false := by
  simp only [Movement.denial?_eq_none_iff, Packet.mem_parties_outboundMovement, or_imp, forall_and,
    forall_eq', gateView]

theorem outboundRefusal?_eq_none_iff :
    ledger.outboundRefusal? caller packet = none ↔ ledger.ClearsOutbound caller packet := by
  unfold outboundRefusal? ClearsOutbound
  split
  · next inControl =>
    rw [or_iff_right (not_not_intro inControl)]
    cases Account.ofBytes? packet.sender with
    | none => simp only [reduceCtorEq, false_and, exists_false]
    | some sender =>
      simp only [Option.map_eq_none_iff, denial?_outboundMovement_eq_none_iff, Option.some.injEq,
        exists_eq_left']
  · next foreign => exact iff_of_true rfl (.inl foreign)

instance : Decidable (ledger.ClearsOutbound caller packet) :=
  decidable_of_iff _ outboundRefusal?_eq_none_iff

/-- Naming the same sender twice makes no difference to the gate. -/
theorem denial?_outboundMovement (sender : Account) (view : GateView Account) :
    (packet.outboundMovement caller sender).denial? view =
      Movement.denial?
        ⟨.crossChainSend, [caller, sender], (Account.ofBytes? packet.receiver).toList⟩ view := by
  unfold Packet.outboundMovement
  split
  · next same =>
    have once : [caller].find? view.frozen = [caller, caller].find? view.frozen := by
      cases frozen : view.frozen caller <;> simp only [List.find?, frozen]
    simp only [Movement.denial?, same, once]
  · rfl

/-- The first obstacle is what an outbound packet is refused for. -/
theorem outboundObstacle_of_refusal {refusal : Refusal}
    (found : ledger.outboundRefusal? caller packet = some refusal) :
    ledger.OutboundObstacle caller packet refusal := by
  unfold outboundRefusal? at found
  split at found
  · split at found
    · next spelled =>
      cases found
      exact .sender spelled
    · next sender spelled =>
      obtain ⟨denial, denied, rfl⟩ := Option.map_eq_some_iff.mp found
      -- With both senders listed there is one case for a frozen sender, whoever of them it is.
      rw [denial?_outboundMovement] at denied
      cases denial with
      | paused => exact .pause spelled (Movement.denial?_eq_paused_iff.mp denied)
      | cannotSend who =>
        obtain ⟨running, frozen⟩ := Movement.exists_cannotSend_iff.mp ⟨who, denied⟩
        simp only [List.mem_cons, List.not_mem_nil, or_false, exists_eq_or_imp, exists_eq_left]
          at frozen
        exact .frozenSender spelled running frozen
      | cannotReceive who =>
        obtain ⟨running, free, receiver, member, frozen⟩ :=
          Movement.exists_cannotReceive_iff.mp ⟨who, denied⟩
        exact .frozenReceiver spelled running (free caller (by simp)) (free sender (by simp))
          (Option.mem_toList.mp member) frozen
  · contradiction

theorem sendPacket_recorded {σ ε : Type} (ofRefusal : Refusal → ε) (app : TransferApp σ ε)
    (state : σ) (asked : List TransferApp.Request) :
    ledger.sendPacket ofRefusal app.recorded (state, asked) caller packet =
      let relayed := ledger.sendPacket ofRefusal app state caller packet
      ⟨relayed.reply,
        (relayed.state,
          asked ++ if ledger.ClearsOutbound caller packet then [.send caller packet] else []),
        relayed.log⟩ := by
  cases found : ledger.outboundRefusal? caller packet with
  | none =>
    rw [sendPacket_of_clear _ _ _ found, sendPacket_of_clear _ _ _ found,
      if_pos (outboundRefusal?_eq_none_iff.mp found)]
    rfl
  | some refusal =>
    have stopped : ¬ ledger.ClearsOutbound caller packet := by
      rw [← outboundRefusal?_eq_none_iff, found]
      exact Option.some_ne_none refusal
    rw [sendPacket_of_refusal _ _ _ found, sendPacket_of_refusal _ _ _ found, if_neg stopped,
      List.append_nil]

/-- A relay asks the application to send when the ledger has nothing against it. -/
theorem sendPacket_eq_sendIf {σ ε : Type} (ofRefusal : Refusal → ε) (app : TransferApp σ ε)
    (state : σ) :
    ((ledger.sendPacket ofRefusal app state caller packet).reply,
        (ledger.sendPacket ofRefusal app state caller packet).state) =
      app.sendIf ofRefusal state caller packet
        (verdictOf (ledger.outboundRefusal? caller packet)) := by
  cases found : ledger.outboundRefusal? caller packet with
  | none => rw [sendPacket_of_clear _ _ _ found]; rfl
  | some refusal => rw [sendPacket_of_refusal _ _ _ found]; rfl

/-- In the controlled denomination a relay goes by the gate, which is asked about both senders. -/
theorem verdictOf_outboundRefusal? {sender : Account} (inControl : packet.denomination = controlled)
    (sent : Account.ofBytes? packet.sender = some sender) :
    verdictOf (ledger.outboundRefusal? caller packet) =
      (ledger.evaluate ⟨.crossChainSend, [caller, sender],
        (Account.ofBytes? packet.receiver).toList⟩).verdict.mapError Denial.refusal := by
  rw [outboundRefusal?, if_pos inControl, sent, verdict_evaluate, mapError_verdictOf]
  exact congrArg (fun denial? => verdictOf (denial?.map Denial.refusal))
    (denial?_outboundMovement sender ledger.gateView)

/-- Between two local accounts a relay that the sender calls looks at the movement that the hook
looks at. -/
theorem outboundRefusal?_of_local {receiver : Account}
    (sent : Account.ofBytes? packet.sender = some caller)
    (received : Account.ofBytes? packet.receiver = some receiver) :
    ledger.outboundRefusal? caller packet =
      (ledger.denial? packet.denomination ⟨.crossChainSend, [caller], [receiver]⟩).map
        Denial.refusal := by
  unfold outboundRefusal? denial?
  split
  · simp only [sent, Packet.outboundMovement, received, Option.toList_some, if_true]
  · rfl

/-- An outbound packet is shown to the application once, whose result is handed on, or refused for
the first obstacle. -/
theorem outbound_passage {σ ε : Type} (ledger : Ledger) (caller : Account) (packet : Packet)
    (ofRefusal : Refusal → ε) (app : TransferApp σ ε) (state : σ) :
    let relayed := ledger.sendPacket ofRefusal app state caller packet
    let traced := ledger.sendPacket ofRefusal app.recorded (state, []) caller packet
    let asked := traced.state.2
    (traced.reply, traced.state.1) = (relayed.reply, relayed.state) ∧
    (ledger.ClearsOutbound caller packet →
      asked = [.send caller packet] ∧
        (relayed.reply, relayed.state) = app.send state caller packet) ∧
    (¬ ledger.ClearsOutbound caller packet →
      asked = [] ∧ relayed.state = state ∧
      ∃ refusal, ledger.OutboundObstacle caller packet refusal ∧
        relayed.reply = .error (ofRefusal refusal)) ∧
    (∀ sender, packet.denomination = controlled → Account.ofBytes? packet.sender = some sender →
      let verdict := (ledger.evaluate ⟨.crossChainSend, [caller, sender],
        (Account.ofBytes? packet.receiver).toList⟩).verdict
      (relayed.reply, relayed.state) =
        app.sendIf ofRefusal state caller packet (verdict.mapError Denial.refusal)) ∧
    ∀ receiver, Account.ofBytes? packet.sender = some caller →
      Account.ofBytes? packet.receiver = some receiver →
      let hook : Hook := .outbound caller receiver packet.denomination packet.amount
      (relayed.reply, relayed.state) =
        app.sendIf ofRefusal state caller packet (ledger.checkHook hook).verdict := by
  intro relayed traced asked
  have traced_eq : traced = _ := sendPacket_recorded ofRefusal app state []
  have asked_eq :
      asked = if ledger.ClearsOutbound caller packet then [.send caller packet] else [] :=
    congrArg (·.state.2) traced_eq
  have relayed_eq : (relayed.reply, relayed.state) = _ := sendPacket_eq_sendIf ofRefusal app state
  refine ⟨congrArg (fun relayed => (relayed.reply, relayed.state.1)) traced_eq, ?_, ?_, ?_, ?_⟩
  · intro clear
    refine ⟨asked_eq.trans (if_pos clear), relayed_eq.trans ?_⟩
    rw [outboundRefusal?_eq_none_iff.mpr clear]
    rfl
  · intro stopped
    obtain ⟨refusal, found⟩ :=
      Option.ne_none_iff_exists'.mp (mt outboundRefusal?_eq_none_iff.mp stopped)
    have refused : relayed = _ := sendPacket_of_refusal ofRefusal app state found
    rw [refused]
    exact ⟨asked_eq.trans (if_neg stopped), rfl, refusal, outboundObstacle_of_refusal found, rfl⟩
  · intro sender inControl sent verdict
    rw [relayed_eq, verdictOf_outboundRefusal? inControl sent]
  · intro receiver sent received hook
    rw [relayed_eq, outboundRefusal?_of_local sent received, verdict_checkHook]
    rfl

open SampleHost in
/-- With bob frozen, alice may send abroad, but neither for bob nor to him. -/
theorem outbound_passage_of_frozen_party :
    let grudging : TransferApp Nat CallError :=
      ⟨fun seen _ => (.failure [255], seen + 1), fun seen _ _ => (.error .unavailable, seen + 1)⟩
    let frozen : Ledger := { firstLedger with blacklist := .ofList [bob] }
    let own : Packet := ⟨controlled, 5, Codec.word64.encode alice, [7]⟩
    let another : Packet := { own with sender := Codec.word64.encode bob }
    let domestic : Packet := { own with receiver := Codec.word64.encode bob }
    let taken := frozen.sendPacket .refused grudging 0 alice own
    let refused := frozen.sendPacket .refused grudging 0 alice another
    let withheld := frozen.sendPacket .refused grudging 0 alice domestic
    (frozen.ClearsOutbound alice own ∧ (taken.reply, taken.state) = (.error .unavailable, 1)) ∧
      (¬ frozen.ClearsOutbound alice another ∧
        (frozen.sendPacket .refused grudging.recorded (0, []) alice another).state.2 = []) ∧
      (another.denomination = controlled ∧ Account.ofBytes? another.sender = some bob ∧
        (refused.reply, refused.state) = (.error (.refused .senderBlacklisted), 0)) ∧
      Account.ofBytes? domestic.sender = some alice ∧
      Account.ofBytes? domestic.receiver = some bob ∧
      (withheld.reply, withheld.state) = (.error (.refused .receiverBlacklisted), 0) := by
  intro grudging frozen own another domestic taken refused withheld
  have clear : frozen.ClearsOutbound alice own := by decide +kernel
  have stopped : ¬ frozen.ClearsOutbound alice another := by decide +kernel
  have proxied : Account.ofBytes? another.sender = some bob := Account.ofBytes?_encode bob
  have sent : Account.ofBytes? domestic.sender = some alice := Account.ofBytes?_encode alice
  have received : Account.ofBytes? domestic.receiver = some bob := Account.ofBytes?_encode bob
  obtain ⟨_, passes, _, _, _⟩ := outbound_passage frozen alice own .refused grudging 0
  obtain ⟨_, _, stops, gated, _⟩ := outbound_passage frozen alice another .refused grudging 0
  obtain ⟨_, _, _, _, hooked⟩ := outbound_passage frozen alice domestic .refused grudging 0
  have gate : (frozen.evaluate ⟨.crossChainSend, [alice, bob],
      (Account.ofBytes? another.receiver).toList⟩).verdict.mapError Denial.refusal =
        .error .senderBlacklisted := rfl
  have hook : (frozen.checkHook (.outbound alice bob controlled 5)).verdict =
      .error .receiverBlacklisted := rfl
  refine ⟨⟨clear, (passes clear).2⟩, ⟨stopped, (stops stopped).1⟩, ⟨rfl, proxied, ?_⟩, sent,
    received, ?_⟩
  · exact (gated bob rfl proxied).trans (congrArg (grudging.sendIf .refused 0 alice another) gate)
  · exact (hooked bob sent received).trans (congrArg (grudging.sendIf .refused 0 alice domestic) hook)

end Ledger

end Stablecoin
