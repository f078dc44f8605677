import Stablecoin.Ledger.Screening
import Stablecoin.Packet.Basic
import Stablecoin.Wire.Codec

/-! # Relaying packets

A relay stands in front of a transfer application and screens the packets of the controlled
denomination; all others go straight through. The local party of a packet, which is its receiver on
the way in and its sender on the way out, must be a local account. The remote party is screened
only when its address happens to spell one.

An inbound packet that is refused is answered, not dropped, so that the sending chain can refund.
-/

namespace Stablecoin

/-- A transfer application with a state and with errors of its own. -/
structure TransferApp (σ ε : Type) where
  receive : σ → Packet → Ack × σ
  send : σ → Account → Packet → Except ε Unit × σ

/-- What became of a packet, the state of the application after it, and the lines written. -/
structure Relayed (ρ σ : Type) where
  reply : ρ
  state : σ
  log : List LogLine

inductive PacketFault
  | malformedReceiver
  | denied (denial : Denial Account)
deriving DecidableEq, Repr

def PacketFault.reason : PacketFault → String
  | malformedReceiver => "invalid address"
  | denied denial => denial.reason

namespace Packet

def inboundMovement (packet : Packet) (receiver : Account) : Movement Account :=
  ⟨.crossChainReceive, (Account.ofBytes? packet.sender).toList, [receiver]⟩

/-- The movement of an outbound packet of a caller. Whoever sends its own packet is named once. -/
def outboundMovement (packet : Packet) (caller sender : Account) : Movement Account :=
  ⟨.crossChainSend, if sender = caller then [caller] else [caller, sender],
    (Account.ofBytes? packet.receiver).toList⟩

end Packet

namespace Ledger

def screenInbound (ledger : Ledger) (packet : Packet) : Audited PacketFault Unit :=
  if packet.denomination = controlled then
    match Account.ofBytes? packet.receiver with
    | none => .refuse .malformedReceiver .malformedReceiver
    | some receiver =>
        (ledger.evaluate (packet.inboundMovement receiver)).mapError PacketFault.denied
  else pure ()

def screenOutbound (ledger : Ledger) (caller : Account) (packet : Packet) :
    Audited Refusal Unit :=
  if packet.denomination = controlled then
    match Account.ofBytes? packet.sender with
    | none => .refuseSilently .invalidAddress
    | some sender =>
        (ledger.evaluate (packet.outboundMovement caller sender)).mapError Denial.refusal
  else pure ()

variable {σ ε : Type}

/-- Hand an inbound packet to the application if it passes, and answer it in either case. -/
def receivePacket (ledger : Ledger) (app : TransferApp σ ε) (state : σ) (packet : Packet) :
    Relayed Ack σ :=
  let screened := ledger.screenInbound packet
  match screened.verdict with
  | .ok () =>
    let (ack, state) := app.receive state packet
    ⟨ack, state, screened.log⟩
  | .error fault => ⟨.refusal fault.reason, state, screened.log⟩

/-- Hand an outbound packet to the application if it passes, and its result back unchanged; a
refusal is put among its errors. -/
def sendPacket (ledger : Ledger) (ofRefusal : Refusal → ε) (app : TransferApp σ ε) (state : σ)
    (caller : Account) (packet : Packet) : Relayed (Except ε Unit) σ :=
  let screened := ledger.screenOutbound caller packet
  match screened.verdict with
  | .ok () =>
    let (result, state) := app.send state caller packet
    ⟨result, state, screened.log⟩
  | .error refusal => ⟨.error (ofRefusal refusal), state, screened.log⟩

end Ledger

end Stablecoin
