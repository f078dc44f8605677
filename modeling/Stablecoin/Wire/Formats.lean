import Stablecoin.Call
import Stablecoin.Event
import Stablecoin.Ledger.Basic
import Stablecoin.Packet.Basic
import Stablecoin.Refusal
import Stablecoin.Wire.Codec

/-! # The byte formats of the ledger

Packets, acknowledgements and minter records are their fields in order. Calls, events and refusals
start with the byte of their public index.
-/

namespace Stablecoin

def Packet.codec : Codec Packet :=
  (Codec.word32.pair (Codec.word64.pair (Codec.bytes.pair Codec.bytes))).via
    (fun packet => (packet.denomination, packet.amount, packet.sender, packet.receiver))
    (fun (denomination, amount, sender, receiver) => ⟨denomination, amount, sender, receiver⟩)

/-- An acknowledgement: 0 for a success and 1 for a failure, then the bytes it carries. -/
def Ack.codec : Codec Ack :=
  (Codec.pair (Codec.position [true, false]) Codec.bytes).via
    (fun
      | .success result => (true, result)
      | .failure reason => (false, reason))
    (fun
      | (true, result) => .success result
      | (false, reason) => .failure reason)

def MinterRecord.codec : Codec MinterRecord :=
  (Codec.word64.pair Codec.flag).via (fun record => (record.allowance, record.active))
    (fun (allowance, active) => ⟨allowance, active⟩)

/-- The number of bytes that a minter record takes. -/
def MinterRecord.encodedLength : Nat := 9

def Action.codec : Codec Action := Codec.position Action.all

/-- A call: its index, then its arguments. -/
def Call.codec : Codec Call :=
  (Codec.tagged Action.codec
    fun action => Codec.sequence (action.parameters.map fun _ => Codec.word64)).viaPartial
      (fun call => (call.action, call.arguments))
      (fun (action, arguments) => Call.ofArguments? action arguments)

/-- A field of an event of a given shape. -/
def FieldShape.codec : FieldShape → Codec Event.Field
  | .required => Codec.word64.via (fun field => field.word?.getD 0) .required
  | .optional => Codec.word64.option.via Event.Field.word? .optional

/-- An event: its index, then its fields. -/
def Event.codec : Codec Event :=
  (Codec.tagged Action.codec
    fun action => Codec.sequence (action.eventFields.map (·.2.codec))).viaPartial
      (fun event => (event.action, event.fields))
      (fun (action, fields) => Event.ofFields? action fields)

def Refusal.codec : Codec Refusal := Codec.position Refusal.all

end Stablecoin
